import SourceIndex.Proofs.Walk.Visits

/-! # How a walk moves on

A walk on its way has an open listing, of which a part is left, and directories that wait.  What
these give is what the walk still finds, and the listings among them that fail are those it still
counts (`Walker.Moves`).  Each step takes a file off what is left or leaves it as it is, and so do
a pull (`moves_next`) and draining the walk (`moves_drain`). -/
set_option autoImplicit false
namespace SourceIndex.Walker

/-- The directories that are still to be listed, what is left of the open listing first. -/
def folders (walker : Walker) : List Folder :=
  (walker.listing.map Listing.left).toList ++ walker.pending

def filesLeft (walker : Walker) : List FoundFile :=
  walker.folders.flatMap (Folder.visit walker.ignored)

/-- The number of listings that are still to fail. -/
def failuresLeft (walker : Walker) : Nat :=
  (walker.folders.flatMap (Folder.visited walker.ignored)).countP Folder.fails

/-- From one state of a walk to a later one just these files are found, the failures of listings
are counted, and nothing else is lost. -/
structure Moves (before : Walker) (found : List FoundFile) (after : Walker) : Prop where
  ignored : after.ignored = before.ignored
  files : before.filesLeft = found ++ after.filesLeft
  failures : before.skipped + before.failuresLeft = after.skipped + after.failuresLeft
  weight : after.weight ≤ before.weight

namespace Moves

theorem refl (walker : Walker) : Moves walker [] walker := ⟨rfl, rfl, rfl, Nat.le_refl _⟩

theorem trans {first second third : Walker} {found more : List FoundFile}
    (front : Moves first found second) (back : Moves second more third) :
    Moves first (found ++ more) third where
  ignored := back.ignored.trans front.ignored
  files := by rw [front.files, back.files, List.append_assoc]
  failures := front.failures.trans back.failures
  weight := Nat.le_trans back.weight front.weight

end Moves

theorem visit_eq (walker : Walker) (entry : Entry) (rest : Listing) :
    walker.visit entry rest =
      match entry.file? walker.ignored rest.path with
      | some file => .found file { walker with listing := some rest }
      | none =>
        .moved
          { walker with
            listing := some rest
            pending := (entry.folder? walker.ignored rest.path).toList ++ walker.pending } [] := by
  unfold visit Entry.file? Entry.folder?
  split
  · rfl
  · cases entry with
    | directory => rfl
    | leaf name kind => cases content : kind.content? <;> simp [content]

/-- Reading an entry takes its file off what is left, and puts its directory in front of those that
wait. -/
theorem moves_of_entry {walker : Walker} {listing rest : Listing} {entry : Entry}
    (opened : walker.listing = some listing) (read : listing.read = .entry entry rest) :
    Moves walker (entry.file? walker.ignored rest.path).toList
      { walker with
        listing := some rest
        pending := (entry.folder? walker.ignored rest.path).toList ++ walker.pending } := by
  refine ⟨rfl, ?_, ?_, ?_⟩
  · simp only [filesLeft, folders, opened, Option.map_some, Option.toList_some,
      List.flatMap_append, List.flatMap_singleton, Listing.visit_left _ read, List.append_assoc]
  · simp only [failuresLeft, folders, opened, Option.map_some, Option.toList_some,
      List.flatMap_append, List.flatMap_singleton, List.countP_append,
      Listing.countP_visited_left _ read, Nat.add_assoc]
  · have total := Listing.totalWeight_of_read read
    simp only [weight, opened]
    cases entered : entry.folder? walker.ignored rest.path with
    | none =>
        simp only [Option.toList_none, List.nil_append]
        omega
    | some below =>
        have lighter := Entry.weight_of_folder? entered
        simp only [Option.toList_some, List.singleton_append, Folder.totalWeight]
        omega

@[simp] theorem folders_release (walker : Walker) : walker.release.folders = walker.pending := by
  cases listed : walker.listing <;> simp [release, folders, listed]

@[simp] theorem ignored_release (walker : Walker) : walker.release.ignored = walker.ignored := by
  cases listed : walker.listing <;> simp [release, listed]

@[simp] theorem skipped_release (walker : Walker) : walker.release.skipped = walker.skipped := by
  cases listed : walker.listing <;> simp [release, listed]

/-- A directory that is left behind has nothing more to give, and is counted if it failed. -/
theorem moves_past {before after : Walker} (folder : Folder)
    (front : before.folders = folder :: after.folders) (ignored : after.ignored = before.ignored)
    (empty : folder.delivered = [])
    (counted : after.skipped = before.skipped + if folder.fails then 1 else 0)
    (lighter : after.weight ≤ before.weight) : Moves before [] after := by
  have nothing : folder.visit before.ignored = [] := by
    rw [Folder.visit_eq, Folder.files, Folder.folders, empty]
    rfl
  have alone : folder.visited before.ignored = [folder] := by
    rw [Folder.visited_eq, Folder.folders, empty]
    rfl
  refine ⟨ignored, ?_, ?_, lighter⟩
  · rw [filesLeft, filesLeft, front, ignored, List.flatMap_cons, nothing]
  · rw [failuresLeft, failuresLeft, front, ignored, List.flatMap_cons, alone, counted,
      List.countP_append, List.countP_singleton]
    omega

theorem moves_of_open {walker : Walker} {folder : Folder} {rest : List Folder}
    (idle : walker.listing = none) (waiting : walker.pending = folder :: rest)
    (opens : folder.conduct.opens = true) :
    Moves walker []
      { walker with
        pending := rest
        listing := some ⟨walker.opened, folder.path, folder.entries, folder.conduct.breaksAfter,
          folder.conduct.releases⟩
        opened := walker.opened + 1 } := by
  -- a directory as it was listed is all of what is left of its listing
  have same : folder = ⟨folder.path, ⟨true, folder.conduct.breaksAfter, folder.conduct.releases⟩,
      folder.entries⟩ := by
    rw [← opens]
  refine ⟨rfl, ?_, ?_, ?_⟩
  · simp only [filesLeft, folders, idle, waiting, Option.map_some, Option.map_none,
      Option.toList_some, Option.toList_none, List.nil_append, List.singleton_append, Listing.left]
    rw [← same]
  · simp only [failuresLeft, folders, idle, waiting, Option.map_some, Option.map_none,
      Option.toList_some, Option.toList_none, List.nil_append, List.singleton_append, Listing.left]
    rw [← same]
  · simp only [weight, idle, waiting, Folder.totalWeight, Folder.weight]
    omega

/-- What a step does: it finds the next file, or passes something that holds none, or nothing is
left. -/
def Stepped (walker : Walker) : WalkStep → Prop
  | .found file after => Moves walker [file] after
  | .moved after _ => Moves walker [] after
  | .exhausted => walker.folders = []

theorem stepped_step (walker : Walker) : walker.Stepped walker.step := by
  cases listed : walker.listing with
  | some listing =>
      have delivers := listing.delivers_read
      have front : walker.folders = listing.left :: walker.pending := by
        simp [folders, listed]
      cases read : listing.read with
      | entry entry rest =>
          have moves := moves_of_entry listed read
          simp only [step, listed, read, visit_eq]
          cases found : entry.file? walker.ignored rest.path with
          | none =>
              rw [found] at moves
              exact moves
          | some file =>
              rw [found, Entry.folder?_of_file? found] at moves
              exact moves
      | finished =>
          rw [read] at delivers
          simp only [step, listed, read]
          refine moves_past listing.left (front.trans ?_) (ignored_release _) delivers.1 ?_ ?_
          · rw [folders_release]
          · rw [skipped_release, delivers.2]
            rfl
          · rw [weight_release]
            exact Nat.le_add_right _ _
      | broken =>
          rw [read] at delivers
          simp only [step, listed, read]
          refine moves_past listing.left (front.trans ?_) (ignored_release _) delivers.1 ?_ ?_
          · exact congrArg _ (folders_release walker).symm
          · rw [delivers.2]
            rfl
          · have lighter := weight_release walker
            exact Nat.le_trans (Nat.le_of_eq lighter) (Nat.le_add_right _ _)
  | none =>
      cases waiting : walker.pending with
      | nil =>
          simp only [step, listed, waiting]
          simp [Stepped, folders, listed, waiting]
      | cons folder rest =>
          simp only [step, listed, waiting, openNext]
          split
          · rename_i opens
            exact moves_of_open listed waiting opens
          · rename_i closed
            refine moves_past folder ?_ rfl ?_ ?_ ?_
            · simp [folders, listed, waiting]
            · simp [Folder.delivered, closed]
            · simp [Folder.fails, closed]
            · simp only [weight, listed, waiting, Folder.totalWeight]
              omega

theorem moves_next (walker : Walker) : Moves walker walker.next.1.toList walker.next.2.1 := by
  fun_induction next walker with
  | case1 walker file after found =>
      have stepped := walker.stepped_step
      rw [found] at stepped
      exact stepped
  | case2 walker after events moved file last more result ih =>
      have stepped := walker.stepped_step
      rw [moved] at stepped
      rw [result] at ih
      exact Moves.trans stepped ih
  | case3 walker exhausted => exact .refl walker

theorem folders_next {walker : Walker} (nothing : walker.next.1 = none) :
    walker.next.2.1.folders = [] := by
  fun_induction next walker with
  | case1 walker file after found => cases nothing
  | case2 walker after events moved file last more result ih =>
      rw [result] at ih
      exact ih nothing
  | case3 walker exhausted =>
      have stepped := walker.stepped_step
      rw [exhausted] at stepped
      exact stepped

theorem moves_drain (walker : Walker) : Moves walker walker.drain.1 walker.drain.2.1 := by
  fun_induction drain walker with
  | case1 walker last events pulled =>
      have moves := walker.moves_next
      rw [pulled] at moves
      exact moves
  | case2 walker file after events pulled files last more result ih =>
      have moves := walker.moves_next
      rw [pulled] at moves
      rw [result] at ih
      exact Moves.trans moves ih

theorem folders_drain (walker : Walker) : walker.drain.2.1.folders = [] := by
  fun_induction drain walker with
  | case1 walker last events pulled =>
      have nothing := @folders_next walker (by rw [pulled])
      rw [pulled] at nothing
      exact nothing
  | case2 walker file after events pulled files last more result ih =>
      rw [result] at ih
      exact ih

theorem filesLeft_of_folders {walker : Walker} (nothing : walker.folders = []) :
    walker.filesLeft = [] := by
  rw [filesLeft, nothing]
  rfl

theorem failuresLeft_of_folders {walker : Walker} (nothing : walker.folders = []) :
    walker.failuresLeft = 0 := by
  rw [failuresLeft, nothing]
  rfl

theorem filesLeft_start (root : Folder) (ignored : String → Bool) :
    (start root ignored).filesLeft = root.visit ignored :=
  List.append_nil _

theorem failuresLeft_start (root : Folder) (ignored : String → Bool) :
    (start root ignored).failuresLeft = (root.visited ignored).countP Folder.fails :=
  congrArg (List.countP Folder.fails) (List.append_nil _)

theorem drain_eq_filesLeft (walker : Walker) : walker.drain.1 = walker.filesLeft := by
  rw [(moves_drain walker).files, filesLeft_of_folders (folders_drain walker), List.append_nil]

end SourceIndex.Walker
