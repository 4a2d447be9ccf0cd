import Mathlib.Data.List.Forall2
import Mathlib.Data.List.Perm.Basic
import SourceIndex.Proofs.Walk.Distinct

/-! # Directories that list their entries in another order

The order in which directories list their entries settles in which order a walk finds the files, and
nothing else: what all directories on the way give is the same up to its order (`Folder.gather_perm`),
the files as well as the listings that fail. -/
set_option autoImplicit false
namespace SourceIndex

/-- The entries are the same, but directories list theirs in another order, at any depth. -/
inductive Entry.Rearranged : Entry → Entry → Prop where
  | leaf (name : String) (kind : Leaf) : Rearranged (.leaf name kind) (.leaf name kind)
  | directory (name : String) (conduct : Conduct) {entries middle others : List Entry}
      (permuted : entries.Perm middle) (each : List.Forall₂ Rearranged middle others) :
      Rearranged (.directory name conduct entries) (.directory name conduct others)

namespace Folder

/-- The directory and those below it list their entries in another order. -/
structure Rearranged (folder other : Folder) : Prop where
  path : other.path = folder.path
  conduct : other.conduct = folder.conduct
  entries : ∃ middle, folder.entries.Perm middle ∧
    List.Forall₂ Entry.Rearranged middle other.entries

/-- Each directory on the way that can be opened is listed to its end. -/
def Steady (ignored : String → Bool) (folder : Folder) : Prop :=
  ∀ listed ∈ folder.visited ignored, listed.conduct.opens = true → listed.fails = false

end Folder

namespace Entry.Rearranged

variable {ignored : String → Bool} {path : Path} {entry other : Entry}

theorem file? (rearranged : Rearranged entry other) :
    other.file? ignored path = entry.file? ignored path := by
  cases rearranged <;> rfl

theorem folder? (rearranged : Rearranged entry other) :
    List.Forall₂ Folder.Rearranged (entry.folder? ignored path).toList
      (other.folder? ignored path).toList := by
  cases rearranged with
  | leaf name kind =>
      simp only [Entry.folder?, ite_self, Option.toList_none]
      exact .nil
  | directory name conduct permuted each =>
      unfold Entry.folder?
      rw [Entry.name, Entry.name]
      split
      · exact .nil
      · exact .cons ⟨rfl, rfl, _, permuted, each⟩ .nil

end Entry.Rearranged

namespace Folder

variable {ignored : String → Bool} {folder other : Folder}

theorem Steady.own (steady : folder.Steady ignored) :
    folder.conduct.opens = true → folder.fails = false := by
  refine steady folder ?_
  rw [visited_eq]
  exact List.mem_cons_self

theorem Steady.below {below : Folder} (steady : folder.Steady ignored)
    (listed : below ∈ folder.folders ignored) : below.Steady ignored := by
  intro inner within
  refine steady inner ?_
  rw [visited_eq]
  exact List.mem_cons_of_mem _
    (List.mem_flatMap.mpr ⟨below, List.mem_reverse.mpr listed, within⟩)

theorem delivered_of_whole (opens : folder.conduct.opens = true) (whole : folder.fails = false) :
    folder.delivered = folder.entries := by
  unfold fails at whole
  unfold delivered
  rw [if_pos opens]
  split
  · rename_i count breaks
    have short : folder.entries.length < count := by simpa [opens, breaks] using whole
    exact List.take_of_length_le (Nat.le_of_lt short)
  · rfl

namespace Rearranged

theorem fails (rearranged : folder.Rearranged other) : other.fails = folder.fails := by
  obtain ⟨middle, permuted, each⟩ := rearranged.entries
  have long : other.entries.length = folder.entries.length :=
    each.length_eq.symm.trans permuted.length_eq.symm
  rw [Folder.fails, Folder.fails, rearranged.conduct, long]

theorem delivered (rearranged : folder.Rearranged other) (steady : folder.Steady ignored) :
    ∃ middle, folder.delivered.Perm middle ∧
      List.Forall₂ Entry.Rearranged middle other.delivered := by
  cases opens : folder.conduct.opens with
  | false =>
      have shut : other.conduct.opens = false := rearranged.conduct ▸ opens
      exact ⟨[], by simp [Folder.delivered, opens], by simp [Folder.delivered, shut]⟩
  | true =>
      have whole := steady.own opens
      have otherOpens : other.conduct.opens = true := rearranged.conduct ▸ opens
      rw [delivered_of_whole opens whole,
        delivered_of_whole otherOpens (rearranged.fails.trans whole)]
      exact rearranged.entries

end Rearranged

/-- If related items give the same up to its order, lists of them do. -/
theorem flatMap_perm_of_forall₂ {α β γ : Type} {related : α → β → Prop} {give : α → List γ}
    {giveOther : β → List γ} {items : List α} {others : List β}
    (each : List.Forall₂ related items others)
    (same : ∀ item ∈ items, ∀ other, related item other → (give item).Perm (giveOther other)) :
    (items.flatMap give).Perm (others.flatMap giveOther) := by
  induction each with
  | nil => exact .nil
  | cons here _ ih =>
      obtain ⟨first, behind⟩ := List.forall_mem_cons.mp same
      rw [List.flatMap_cons, List.flatMap_cons]
      exact (first _ here).append (ih behind)

/-- If what each directory gives by itself is the same up to its order, so is what it gives together
with all directories below it. -/
theorem gather_perm {α : Type} {give : Folder → List α}
    (own : ∀ {folder other : Folder}, folder.Rearranged other → folder.Steady ignored →
      (give folder).Perm (give other)) (folder : Folder) : ∀ {other : Folder},
    folder.Rearranged other → folder.Steady ignored →
      (folder.gather ignored give).Perm (other.gather ignored give) := by
  induction folder using folders_induction ignored with
  | folder folder ih =>
      intro other rearranged steady
      obtain ⟨middle, permuted, each⟩ := rearranged.delivered steady
      rw [gather_eq_entries, gather_eq_entries ignored give other]
      refine (own rearranged steady).append ?_
      have reordered := ((List.reverse_perm _).trans permuted).flatMap_right fun entry =>
        (entry.folder? ignored folder.path).toList.flatMap (gather ignored give)
      refine reordered.trans (.trans ?_ ((List.reverse_perm other.delivered).symm.flatMap_right _))
      refine flatMap_perm_of_forall₂ each ?_
      intro entry among beyond related
      rw [rearranged.path]
      refine flatMap_perm_of_forall₂ related.folder? ?_
      intro below entered inner relatedBelow
      have listed : below ∈ folder.folders ignored :=
        List.mem_filterMap.mpr ⟨entry, permuted.mem_iff.mpr among, Option.mem_toList.mp entered⟩
      exact ih below listed relatedBelow (steady.below listed)

theorem files_perm (rearranged : folder.Rearranged other) (steady : folder.Steady ignored) :
    (folder.files ignored).Perm (other.files ignored) := by
  obtain ⟨middle, permuted, each⟩ := rearranged.delivered steady
  refine (permuted.filterMap _).trans ?_
  rw [files, List.filterMap_eq_flatMap_toList, List.filterMap_eq_flatMap_toList]
  refine flatMap_perm_of_forall₂ each ?_
  intro entry _ beyond related
  rw [rearranged.path, related.file?]

/-- The same files are found. -/
theorem visit_perm (rearranged : folder.Rearranged other) (steady : folder.Steady ignored) :
    (folder.visit ignored).Perm (other.visit ignored) :=
  gather_perm files_perm folder rearranged steady

variable (ignored) in
theorem map_gather {α β : Type} (f : α → β) (give : Folder → List α) (folder : Folder) :
    (folder.gather ignored give).map f = folder.gather ignored fun each => (give each).map f := by
  induction folder using folders_induction ignored with
  | folder folder ih =>
      rw [gather_eq, gather_eq, List.map_append, List.map_flatMap]
      congr 1
      exact List.flatMap_congr fun below listed => ih below (List.mem_reverse.mp listed)

/-- As many listings fail. -/
theorem countP_fails_visited (rearranged : folder.Rearranged other)
    (steady : folder.Steady ignored) :
    (folder.visited ignored).countP fails = (other.visited ignored).countP fails := by
  have told (each : Folder) : (each.visited ignored).countP fails =
      (each.gather ignored fun listed => [listed.fails]).countP id := by
    have answers := map_gather ignored fails (fun listed => [listed]) each
    exact List.countP_map.symm.trans (congrArg (List.countP id) answers)
  rw [told, told]
  refine List.Perm.countP_eq id (gather_perm ?_ folder rearranged steady)
  intro first second related _
  rw [related.fails]

end Folder

end SourceIndex
