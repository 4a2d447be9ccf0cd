import SourceIndex.Walk

/-! # What a directory tree gives

A directory gives its files in the order of its listing, and then what the directories listed in
it give, the last listed first (`Folder.visit_eq`).  What is left of an open listing is a directory
of its own: reading an entry takes its file off the front (`Listing.visit_left`). -/
set_option autoImplicit false
namespace SourceIndex

/-- The file that an entry of a directory is, unless its name is left out. -/
def Entry.file? (ignored : String → Bool) (path : Path) (entry : Entry) : Option FoundFile :=
  if ignored entry.name then none
  else
    match entry with
    | .leaf name kind => kind.content?.map fun content => ⟨path.child name, content⟩
    | .directory .. => none

/-- The directory that an entry of a directory is, unless its name is left out.  A link to a
directory is not one. -/
def Entry.folder? (ignored : String → Bool) (path : Path) (entry : Entry) : Option Folder :=
  if ignored entry.name then none
  else
    match entry with
    | .directory name conduct entries => some ⟨path.child name, conduct, entries⟩
    | .leaf .. => none

theorem Entry.folder?_of_file? {ignored : String → Bool} {path : Path} {entry : Entry}
    {file : FoundFile} (found : entry.file? ignored path = some file) :
    entry.folder? ignored path = none := by
  unfold file? at found
  unfold folder?
  split
  · rfl
  · cases entry with
    | directory => simp at found
    | leaf => rfl

theorem Entry.weight_of_folder? {ignored : String → Bool} {path : Path} {entry : Entry}
    {below : Folder} (entered : entry.folder? ignored path = some below) :
    below.weight < entry.weight := by
  unfold folder? at entered
  split at entered
  · cases entered
  · cases entry with
    | directory name conduct entries =>
        cases entered
        exact Nat.lt_succ_self _
    | leaf => cases entered

theorem Entry.weight_le_totalWeight {entry : Entry} {entries : List Entry} (among : entry ∈ entries) :
    entry.weight ≤ Entry.totalWeight entries := by
  induction entries with
  | nil => cases among
  | cons first rest ih =>
      rw [totalWeight]
      rcases List.mem_cons.mp among with rfl | later
      · exact Nat.le_add_right _ _
      · exact Nat.le_trans (ih later) (Nat.le_add_left _ _)

namespace Folder

/-- The entries that a listing of the directory gives before it ends or fails. -/
def delivered (folder : Folder) : List Entry :=
  if folder.conduct.opens then
    match folder.conduct.breaksAfter with
    | some count => folder.entries.take count
    | none => folder.entries
  else []

/-- Listing the directory fails: it cannot be opened, or it breaks off before its end is told. -/
def fails (folder : Folder) : Bool :=
  !folder.conduct.opens ||
    match folder.conduct.breaksAfter with
    | some count => decide (count ≤ folder.entries.length)
    | none => false

theorem mem_entries_of_mem_delivered {folder : Folder} {entry : Entry}
    (among : entry ∈ folder.delivered) : entry ∈ folder.entries := by
  unfold delivered at among
  split at among
  · split at among
    · exact List.mem_of_mem_take among
    · exact among
  · cases among

section
variable (ignored : String → Bool)

def files (folder : Folder) : List FoundFile :=
  folder.delivered.filterMap (Entry.file? ignored folder.path)

def folders (folder : Folder) : List Folder :=
  folder.delivered.filterMap (Entry.folder? ignored folder.path)

variable {ignored}

theorem weight_of_mem_folders {folder below : Folder} (listed : below ∈ folder.folders ignored) :
    below.weight < folder.weight := by
  obtain ⟨entry, among, entered⟩ := List.mem_filterMap.mp listed
  have inner := Entry.weight_of_folder? entered
  have outer := Entry.weight_le_totalWeight (mem_entries_of_mem_delivered among)
  exact Nat.lt_of_lt_of_le inner (Nat.le_trans outer (Nat.le_add_right _ 2))

variable (ignored)

/-- What a directory gives, and then what the directories listed in it give, the last listed
first. -/
def gather {α : Type} (give : Folder → List α) (folder : Folder) : List α :=
  give folder ++ (folder.folders ignored).reverse.attach.flatMap fun below => below.1.gather give
termination_by folder.weight
decreasing_by exact weight_of_mem_folders (List.mem_reverse.mp below.2)

theorem gather_eq {α : Type} (give : Folder → List α) (folder : Folder) :
    folder.gather ignored give =
      give folder ++ (folder.folders ignored).reverse.flatMap (gather ignored give) := by
  rw [gather, List.flatMap_def, List.flatMap_def,
    List.attach_map_val (f := gather ignored give)]

/-- The files that are found below a directory, in their order. -/
def visit : Folder → List FoundFile := gather ignored (files ignored)

/-- The directories that are listed on the way through a directory, in their order. -/
def visited : Folder → List Folder := gather ignored fun folder => [folder]

end

theorem visit_eq (ignored : String → Bool) (folder : Folder) :
    folder.visit ignored =
      folder.files ignored ++ (folder.folders ignored).reverse.flatMap (visit ignored) :=
  gather_eq ignored _ folder

theorem visited_eq (ignored : String → Bool) (folder : Folder) :
    folder.visited ignored =
      folder :: (folder.folders ignored).reverse.flatMap (visited ignored) :=
  gather_eq ignored _ folder

end Folder

/-! ## An open listing -/

/-- What is left of a listing, as a directory. -/
def Listing.left (listing : Listing) : Folder :=
  ⟨listing.path, ⟨true, listing.breaksAfter, listing.releases⟩, listing.entries⟩

/-- What is read from a listing is the first that it delivers, and the end and the failure of a
listing are told apart. -/
def Listing.Delivers (listing : Listing) : Listed → Prop
  | .entry entry rest => listing.left.delivered = entry :: rest.left.delivered ∧
      rest.path = listing.path ∧ rest.left.fails = listing.left.fails
  | .finished => listing.left.delivered = [] ∧ listing.left.fails = false
  | .broken => listing.left.delivered = [] ∧ listing.left.fails = true

theorem Listing.delivers_read (listing : Listing) : listing.Delivers listing.read := by
  obtain ⟨number, path, entries, breaksAfter, releases⟩ := listing
  cases breaksAfter with
  | none =>
      cases entries with
      | nil => exact ⟨rfl, rfl⟩
      | cons entry rest => exact ⟨rfl, rfl, rfl⟩
  | some count =>
      cases count with
      | zero => exact ⟨rfl, by simp [left, Folder.fails]⟩
      | succ count =>
          cases entries with
          | nil => exact ⟨rfl, by simp [left, Folder.fails]⟩
          | cons entry rest =>
              have both : count ≤ rest.length ↔ count + 1 ≤ rest.length + 1 :=
                Nat.succ_le_succ_iff.symm
              exact ⟨rfl, rfl, decide_eq_decide.mpr both⟩

theorem filterMap_cons_eq {α β : Type} (f : α → Option β) (first : α) (rest : List α) :
    (first :: rest).filterMap f = (f first).toList ++ rest.filterMap f := by
  cases given : f first <;> simp [given]

/-- The directories listed in a directory give in the order of its entries, the last one first. -/
theorem Folder.gather_eq_entries {α : Type} (ignored : String → Bool) (give : Folder → List α)
    (folder : Folder) :
    folder.gather ignored give = give folder ++ folder.delivered.reverse.flatMap fun entry =>
      (entry.folder? ignored folder.path).toList.flatMap (gather ignored give) := by
  rw [gather_eq, folders, ← List.filterMap_reverse]
  congr 1
  induction folder.delivered.reverse with
  | nil => rfl
  | cons entry rest ih =>
      rw [filterMap_cons_eq, List.flatMap_append, ih, List.flatMap_cons]

theorem Folder.visit_eq_entries (ignored : String → Bool) (folder : Folder) :
    folder.visit ignored = folder.files ignored ++ folder.delivered.reverse.flatMap fun entry =>
      (entry.folder? ignored folder.path).toList.flatMap (visit ignored) :=
  gather_eq_entries ignored _ folder

section
variable {listing rest : Listing} {entry : Entry} (ignored : String → Bool)
  (read : listing.read = .entry entry rest)
include read

theorem Listing.files_left :
    listing.left.files ignored = (entry.file? ignored rest.path).toList ++ rest.left.files ignored := by
  obtain ⟨delivered, path, _⟩ : listing.Delivers (.entry entry rest) := read ▸ listing.delivers_read
  have place : listing.left.path = rest.path := path.symm
  rw [Folder.files, delivered, filterMap_cons_eq, place]
  rfl

theorem Listing.reverse_folders_left :
    (listing.left.folders ignored).reverse =
      (rest.left.folders ignored).reverse ++ (entry.folder? ignored rest.path).toList := by
  obtain ⟨delivered, path, _⟩ : listing.Delivers (.entry entry rest) := read ▸ listing.delivers_read
  have place : listing.left.path = rest.path := path.symm
  have single : (entry.folder? ignored rest.path).toList.reverse =
      (entry.folder? ignored rest.path).toList := by
    cases entry.folder? ignored rest.path <;> rfl
  rw [Folder.folders, delivered, filterMap_cons_eq, place, List.reverse_append, single]
  rfl

/-- The file of the entry that is read is found next, and its directory behind all that is left of
the listing. -/
theorem Listing.visit_left :
    listing.left.visit ignored =
      (entry.file? ignored rest.path).toList ++ (rest.left.visit ignored ++
        (entry.folder? ignored rest.path).toList.flatMap (Folder.visit ignored)) := by
  rw [Folder.visit_eq, Folder.visit_eq ignored rest.left, Listing.files_left ignored read,
    Listing.reverse_folders_left ignored read, List.flatMap_append]
  simp only [List.append_assoc]

theorem Listing.countP_visited_left :
    (listing.left.visited ignored).countP Folder.fails =
      (rest.left.visited ignored).countP Folder.fails +
        ((entry.folder? ignored rest.path).toList.flatMap
          (Folder.visited ignored)).countP Folder.fails := by
  have fails := (read ▸ listing.delivers_read : listing.Delivers (.entry entry rest)).2.2
  rw [Folder.visited_eq, Folder.visited_eq ignored rest.left,
    Listing.reverse_folders_left ignored read, List.flatMap_append]
  simp only [List.countP_cons, List.countP_append, fails]
  omega

end

end SourceIndex
