import Mathlib.Data.List.Basic
import SourceIndex.Proofs.Walk.Distinct

/-! # Damaged directory trees

A file may become unreadable or lose its syntax tree, and a directory may not be listed any more.  The
walk through a tree with such damage finds the same files in the same order, less those below a
directory that is not listed (`Folder.visit_damaged`). -/
set_option autoImplicit false
namespace SourceIndex

inductive FileDamage where
  | unreadable (fault : ReadFault)
  /-- The parser gives no syntax tree. -/
  | unparsed

/-- What befalls the entries of a directory tree, by the names that lead to them from its root.  A
directory that anything befalls cannot be opened. -/
abbrev Damage := List String → Option FileDamage

namespace Damage

def under (damage : Damage) (name : String) : Damage := fun names => damage (name :: names)

/-- On the way through these names something is damaged, be it the last. -/
def spoils (damage : Damage) : List String → Bool
  | [] => false
  | name :: rest => (damage [name]).isSome || spoils (damage.under name) rest

theorem spoils_iff (names : List String) : ∀ damage : Damage, damage.spoils names = true ↔
    ∃ front back, front ≠ [] ∧ front ++ back = names ∧ (damage front).isSome = true := by
  induction names with
  | nil =>
      intro damage
      simp only [spoils, Bool.false_eq_true, false_iff]
      rintro ⟨front, back, nonempty, path, _⟩
      exact nonempty (List.append_eq_nil_iff.mp path).1
  | cons name rest ih =>
      intro damage
      rw [spoils, Bool.or_eq_true, ih]
      constructor
      · rintro (here | ⟨front, back, _, rfl, further⟩)
        · exact ⟨[name], rest, List.cons_ne_nil _ _, rfl, here⟩
        · exact ⟨name :: front, back, List.cons_ne_nil _ _, rfl, further⟩
      · rintro ⟨front, back, nonempty, path, damaged⟩
        cases front with
        | nil => exact absurd rfl nonempty
        | cons first front =>
            obtain ⟨rfl, rfl⟩ := List.cons.inj path
            cases front with
            | nil => exact .inl damaged
            | cons second front =>
                exact .inr ⟨second :: front, back, List.cons_ne_nil _ _, rfl, damaged⟩

theorem spoils_concat (front : List String) (last : String) : ∀ damage : Damage,
    damage.spoils (front ++ [last]) =
      (damage.spoils front || (damage (front ++ [last])).isSome) := by
  induction front with
  | nil =>
      intro damage
      simp [spoils]
  | cons name rest ih =>
      intro damage
      rw [List.cons_append, spoils, ih, spoils, Bool.or_assoc]
      rfl

end Damage

def FileContent.damaged (content : FileContent) : Option FileDamage → FileContent
  | none => content
  | some (.unreadable fault) => { content with bytes := .error fault }
  | some .unparsed => { content with tree := none }

def Leaf.damaged (damage : Option FileDamage) : Leaf → Leaf
  | .file content => .file (content.damaged damage)
  | .linkedFile content => .linkedFile (content.damaged damage)
  | other => other

mutual
def Entry.damaged (damage : Damage) : Entry → Entry
  | .directory name conduct entries =>
    .directory name { conduct with opens := conduct.opens && (damage [name]).isNone }
      (Entry.damagedAll (damage.under name) entries)
  | .leaf name kind => .leaf name (kind.damaged (damage [name]))

def Entry.damagedAll (damage : Damage) : List Entry → List Entry
  | [] => []
  | entry :: rest => entry.damaged damage :: Entry.damagedAll damage rest
end

/-- The tree with its files and directories damaged, which the root is spared. -/
def Folder.damaged (damage : Damage) (folder : Folder) : Folder :=
  { folder with entries := Entry.damagedAll damage folder.entries }

/-- The file as it is found in the damaged tree. -/
def FoundFile.damaged (root : Path) (damage : Damage) (file : FoundFile) : FoundFile :=
  { file with content := file.content.damaged (damage (root.namesBelow file.path)) }

/-- The directories on the way to the file are not damaged. -/
def Damage.reaches (damage : Damage) (root : Path) (file : FoundFile) : Bool :=
  !damage.spoils (root.namesBelow file.path).dropLast

theorem Entry.damagedAll_eq_map (damage : Damage) (entries : List Entry) :
    damagedAll damage entries = entries.map (damaged damage) := by
  induction entries with
  | nil => rfl
  | cons entry rest ih => rw [damagedAll, ih, List.map_cons]

theorem Entry.name_damaged (damage : Damage) (entry : Entry) :
    (entry.damaged damage).name = entry.name := by
  cases entry <;> rfl

theorem Leaf.content?_damaged (damage : Option FileDamage) (kind : Leaf) :
    (kind.damaged damage).content? = kind.content?.map (·.damaged damage) := by
  cases kind <;> rfl

theorem Entry.file?_damaged {ignored : String → Bool} {path : Path} {damage : Damage} {entry : Entry}
    (isName : Path.IsName entry.name) :
    (entry.damaged damage).file? ignored path =
      (entry.file? ignored path).map (FoundFile.damaged path damage) := by
  unfold file?
  rw [name_damaged]
  split
  · rfl
  · cases entry with
    | directory => rfl
    | leaf name kind =>
        have place : path.namesBelow (path.child name) = [name] :=
          (congrArg _ (Path.child_of_isName path isName)).trans (path.namesBelow_below [name])
        simp only [damaged, Leaf.content?_damaged, Option.map_map]
        congr 1
        funext content
        simp [FoundFile.damaged, place]

def Folder.damagedUnder (damage : Damage) (name : String) (folder : Folder) : Folder where
  path := folder.path
  conduct := { folder.conduct with opens := folder.conduct.opens && (damage [name]).isNone }
  entries := Entry.damagedAll (damage.under name) folder.entries

theorem Entry.folder?_damaged {ignored : String → Bool} {path : Path} {damage : Damage}
    (entry : Entry) :
    (entry.damaged damage).folder? ignored path =
      (entry.folder? ignored path).map (Folder.damagedUnder damage entry.name) := by
  unfold folder?
  rw [name_damaged]
  split
  · rfl
  · cases entry <;> rfl

namespace Folder

theorem delivered_damaged (damage : Damage) (folder : Folder) :
    (folder.damaged damage).delivered = folder.delivered.map (Entry.damaged damage) := by
  obtain ⟨path, ⟨opens, breaksAfter, releases⟩, entries⟩ := folder
  unfold delivered damaged
  rw [Entry.damagedAll_eq_map]
  cases opens with
  | false => rfl
  | true => cases breaksAfter <;> simp

section
variable {ignored : String → Bool}

theorem files_damaged (damage : Damage) {folder : Folder} (named : Entry.Named folder.entries) :
    (folder.damaged damage).files ignored =
      (folder.files ignored).map (FoundFile.damaged folder.path damage) := by
  rw [files, delivered_damaged, List.filterMap_map, files, List.map_filterMap]
  refine List.filterMap_congr ?_
  intro entry among
  exact Entry.file?_damaged (isName_of_mem_delivered named among)

theorem reaches_files (damage : Damage) {folder : Folder} (named : Entry.Named folder.entries)
    {file : FoundFile} (among : file ∈ folder.files ignored) :
    damage.reaches folder.path file = true := by
  obtain ⟨entry, delivered, isFile⟩ := List.mem_filterMap.mp among
  rw [Damage.reaches, Entry.path_of_file? (isName_of_mem_delivered named delivered) isFile,
    Path.namesBelow_below]
  rfl

theorem visit_of_shut {folder : Folder} (shut : folder.conduct.opens = false) :
    folder.visit ignored = [] := by
  have nothing : folder.delivered = [] := by simp [delivered, shut]
  rw [visit_eq, files, folders, nothing]
  rfl

/-- Below a directory everything is reached as from there, unless the directory is damaged. -/
theorem reaches_below {folder below : Folder} {entry : Entry} (damage : Damage)
    (named : Entry.Named folder.entries) (among : entry ∈ folder.delivered)
    (entered : entry.folder? ignored folder.path = some below) {file : FoundFile}
    (inside : file ∈ below.visit ignored) :
    damage.reaches folder.path file =
      ((damage [entry.name]).isNone && (damage.under entry.name).reaches below.path file) ∧
    file.damaged folder.path damage = file.damaged below.path (damage.under entry.name) := by
  obtain ⟨fromAbove, nonempty⟩ := namesBelow_of_folder? named among entered inside
  refine ⟨?_, ?_⟩
  · rw [Damage.reaches, Damage.reaches, fromAbove, List.dropLast_cons_of_ne_nil nonempty,
      Damage.spoils]
    cases damage [entry.name] <;> rfl
  · rw [FoundFile.damaged, FoundFile.damaged, fromAbove]
    rfl

/-- In a damaged tree the files that can still be reached are found, in their order. -/
theorem visit_damaged (ignored : String → Bool) (root : Folder) : ∀ damage : Damage,
    Entry.Named root.entries →
      (root.damaged damage).visit ignored =
        ((root.visit ignored).filter (damage.reaches root.path)).map
          (FoundFile.damaged root.path damage) := by
  induction root using folders_induction ignored with
  | folder folder ih =>
      intro damage named
      have own : (folder.files ignored).filter (damage.reaches folder.path) = folder.files ignored :=
        List.filter_eq_self.mpr fun file among => reaches_files damage named among
      rw [visit_eq_entries, visit_eq_entries ignored folder, files_damaged damage named,
        delivered_damaged, List.filter_append, List.map_append, own, ← List.map_reverse,
        List.flatMap_map, List.filter_flatMap, List.map_flatMap]
      congr 1
      refine List.flatMap_congr ?_
      intro entry listed
      have among := List.mem_reverse.mp listed
      have place : (folder.damaged damage).path = folder.path := rfl
      rw [place, Entry.folder?_damaged]
      cases entered : entry.folder? ignored folder.path with
      | none => rfl
      | some below =>
          have member : below ∈ folder.folders ignored := List.mem_filterMap.mpr ⟨entry, among, entered⟩
          simp only [Option.map_some, Option.toList_some, List.flatMap_singleton]
          cases hit : damage [entry.name] with
          | some harm =>
              -- the directory gives nothing, and nothing below it is reached
              have shut : (below.damagedUnder damage entry.name).conduct.opens = false := by
                simp [damagedUnder, hit]
              have unreached : (below.visit ignored).filter (damage.reaches folder.path) = [] := by
                refine List.filter_eq_nil_iff.mpr ?_
                intro file inside
                rw [(reaches_below damage named among entered inside).1, hit]
                exact Bool.noConfusion
              rw [visit_of_shut shut, unreached]
              rfl
          | none =>
              have same : below.damagedUnder damage entry.name =
                  below.damaged (damage.under entry.name) := by
                simp [damagedUnder, damaged, hit]
              rw [same, ih below member _ (named_of_mem_folders named member)]
              have reached : (below.visit ignored).filter (damage.reaches folder.path) =
                  (below.visit ignored).filter ((damage.under entry.name).reaches below.path) := by
                refine List.filter_congr ?_
                intro file inside
                rw [(reaches_below damage named among entered inside).1, hit]
                rfl
              rw [reached]
              refine List.map_congr_left ?_
              intro file inside
              exact (reaches_below damage named among entered (List.mem_filter.mp inside).1).2.symm

end

end Folder

end SourceIndex
