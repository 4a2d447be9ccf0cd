import SourceIndex.Proofs.Walk.Calls

/-! # The listings that a walk opens

A walk has one listing open at most, and each listing that it opened before has been released, once
(`Walker.Balanced`).  One step keeps this, so every pull, every drain and a close keep it
(`tidy_serveAll`), and when a walk is over no listing is open (`folders_serveAll`). -/
set_option autoImplicit false
namespace SourceIndex

/-- The listings of the directory and of all directories below it can be released. -/
inductive Folder.Releasable : Folder → Prop where
  | intro {folder : Folder} (releases : folder.conduct.releases = true)
      (below : ∀ name conduct entries, .directory name conduct entries ∈ folder.entries →
        Releasable ⟨folder.path.child name, conduct, entries⟩) : Releasable folder

theorem Folder.Releasable.of_folder? {ignored : String → Bool} {folder below : Folder} {entry : Entry}
    (releasable : folder.Releasable) (among : entry ∈ folder.entries)
    (entered : entry.folder? ignored folder.path = some below) : below.Releasable := by
  obtain ⟨_, inner⟩ := releasable
  unfold Entry.folder? at entered
  split at entered
  · cases entered
  · cases entry with
    | directory name conduct entries =>
        cases entered
        exact inner name conduct entries among
    | leaf => cases entered

theorem Listing.eq_of_read {listing rest : Listing} {entry : Entry}
    (read : listing.read = .entry entry rest) :
    listing.entries = entry :: rest.entries ∧ rest.number = listing.number ∧
      rest.path = listing.path ∧ rest.releases = listing.releases := by
  unfold Listing.read at read
  split at read
  · cases read
  · split at read
    · cases read
    · rename_i entries
      cases read
      exact ⟨entries, rfl, rfl, rfl⟩

theorem Listing.releasable_rest {listing rest : Listing} {entry : Entry}
    (read : listing.read = .entry entry rest) (releasable : listing.left.Releasable) :
    rest.left.Releasable := by
  obtain ⟨entries, _, path, releases⟩ := eq_of_read read
  obtain ⟨own, below⟩ := releasable
  constructor
  · exact releases.trans own
  · intro name conduct inner among
    simp only [left, path] at among ⊢
    refine below name conduct inner ?_
    simp only [left, entries]
    exact List.mem_cons_of_mem _ among

/-- What holds of the walk behind a step. -/
def WalkStep.Behind (P : Walker → Prop) : WalkStep → Prop
  | .found _ after => P after
  | .moved after _ => P after
  | .exhausted => True

namespace Walker

section Kept
variable {P : Walker → Prop}

/-- What each step keeps is kept by a pull, and what each pull keeps by a drain. -/
theorem kept_next (step : ∀ walker, P walker → walker.step.Behind P) (walker : Walker) :
    P walker → P walker.next.2.1 := by
  fun_induction next walker with
  | case1 walker file after found =>
      intro holds
      have behind := step walker holds
      rw [found] at behind
      exact behind
  | case2 walker after events moved file last more result ih =>
      intro holds
      have behind := step walker holds
      rw [moved] at behind
      rw [result] at ih
      exact ih behind
  | case3 walker exhausted => exact id

theorem kept_drain (next : ∀ walker : Walker, P walker → P walker.next.2.1) (walker : Walker) :
    P walker → P walker.drain.2.1 := by
  fun_induction drain walker with
  | case1 walker last events pulled =>
      intro holds
      have behind := next walker holds
      rw [pulled] at behind
      exact behind
  | case2 walker file after events pulled files last more result ih =>
      intro holds
      have behind := next walker holds
      rw [pulled] at behind
      rw [result] at ih
      exact ih behind

end Kept

/-- The listings that were released and then the one that is open are just those that were opened,
in their order; and all that are still to be opened can be released. -/
structure Tidy (walker : Walker) : Prop where
  released : walker.released ++ (walker.listing.map Listing.number).toList =
    List.range walker.opened
  releasable : ∀ folder ∈ walker.folders, folder.Releasable

theorem tidy_start {root : Folder} (releasable : root.Releasable) (ignored : String → Bool) :
    (start root ignored).Tidy := by
  constructor
  · rfl
  · intro folder among
    rw [List.mem_singleton.mp among]
    exact releasable

theorem tidy_release {walker : Walker} (tidy : walker.Tidy) : walker.release.Tidy := by
  obtain ⟨released, releasable⟩ := tidy
  cases listed : walker.listing with
  | none =>
      have same : walker.release = walker := by simp [release, listed]
      rw [same]
      exact ⟨released, releasable⟩
  | some listing =>
      have own : listing.releases = true := by
        have left := releasable listing.left (by simp [folders, listed])
        obtain ⟨releases, _⟩ := left
        exact releases
      constructor
      · rw [listed] at released
        simpa [release, listed, own] using released
      · intro folder among
        rw [folders_release] at among
        exact releasable folder (List.mem_append_right _ among)

theorem tidy_of_entry {walker : Walker} {listing rest : Listing} {entry : Entry}
    (tidy : walker.Tidy) (opened : walker.listing = some listing)
    (read : listing.read = .entry entry rest) :
    Tidy { walker with
      listing := some rest
      pending := (entry.folder? walker.ignored rest.path).toList ++ walker.pending } := by
  obtain ⟨released, releasable⟩ := tidy
  obtain ⟨entries, number, path, _⟩ := Listing.eq_of_read read
  have left := releasable listing.left (by simp [folders, opened])
  constructor
  · rw [opened] at released
    simpa [number] using released
  · intro folder among
    simp only [folders, Option.map_some, Option.toList_some, List.singleton_append, List.mem_cons,
      List.mem_append, Option.mem_toList] at among
    rcases among with rfl | entered | waiting
    · exact Listing.releasable_rest read left
    · have first : entry ∈ listing.left.entries := by simp [Listing.left, entries]
      exact left.of_folder? first (path ▸ entered)
    · exact releasable folder (List.mem_append_right _ waiting)

theorem tidy_openNext {walker : Walker} {folder : Folder} {rest : List Folder} (tidy : walker.Tidy)
    (idle : walker.listing = none) (waiting : walker.pending = folder :: rest) :
    (walker.openNext folder rest).Behind Tidy := by
  obtain ⟨released, releasable⟩ := tidy
  have first : folder.Releasable := releasable folder (by simp [folders, waiting])
  have later : ∀ other ∈ rest, other.Releasable :=
    fun other among => releasable other (by simp [folders, waiting, among])
  rw [idle] at released
  simp only [Option.map_none, Option.toList_none, List.append_nil] at released
  unfold openNext
  split
  · constructor
    · simp [released, List.range_succ]
    · intro other among
      simp only [folders, Option.map_some, Option.toList_some, List.singleton_append,
        List.mem_cons] at among
      rcases among with rfl | among
      · obtain ⟨releases, below⟩ := first
        exact ⟨releases, below⟩
      · exact later other among
  · constructor
    · simp [idle, released]
    · intro other among
      exact later other (by simpa [folders, idle] using among)

theorem tidy_step (walker : Walker) (tidy : walker.Tidy) : walker.step.Behind Tidy := by
  cases listed : walker.listing with
  | some listing =>
      cases read : listing.read with
      | entry entry rest =>
          have after := tidy_of_entry tidy listed read
          simp only [step, listed, read, visit_eq]
          cases found : entry.file? walker.ignored rest.path with
          | none => exact after
          | some file =>
              rw [Entry.folder?_of_file? found] at after
              exact after
      | finished =>
          simp only [step, listed, read]
          exact tidy_release tidy
      | broken =>
          simp only [step, listed, read]
          obtain ⟨released, releasable⟩ := tidy_release tidy
          exact ⟨released, releasable⟩
  | none =>
      cases waiting : walker.pending with
      | nil =>
          simp only [step, listed, waiting]
          trivial
      | cons folder rest =>
          simp only [step, listed, waiting]
          exact tidy_openNext tidy listed waiting

theorem tidy_next (walker : Walker) : walker.Tidy → walker.next.2.1.Tidy :=
  kept_next tidy_step walker

theorem tidy_close {walker : Walker} (tidy : walker.Tidy) : walker.close.Tidy := by
  obtain ⟨released, releasable⟩ := tidy_release tidy
  refine ⟨released, ?_⟩
  intro folder among
  refine releasable folder ?_
  simp only [close, folders, List.append_nil] at among
  exact List.mem_append_left _ among

/-! ## What is known of the counts -/

/-- One listing at most is open, and every other that was opened has been released once. -/
structure Balanced (walker : Walker) : Prop where
  opened : walker.opened = walker.closed + if walker.listing.isSome then 1 else 0
  once : walker.released.Nodup
  known : ∀ number ∈ walker.released, number < walker.opened

theorem Tidy.balanced {walker : Walker} (tidy : walker.Tidy) : walker.Balanced := by
  have order := tidy.released
  have total := congrArg List.length order
  rw [List.length_append, List.length_range] at total
  refine ⟨?_, ?_, ?_⟩
  · rw [← total, closed]
    cases walker.listing <;> rfl
  · have distinct : (List.range walker.opened).Nodup := List.nodup_range
    rw [← order] at distinct
    exact (List.nodup_append.mp distinct).1
  · intro number among
    rw [← List.mem_range, ← order]
    exact List.mem_append_left _ among

theorem listing_of_folders {walker : Walker} (nothing : walker.folders = []) :
    walker.listing = none := by
  cases listed : walker.listing with
  | none => rfl
  | some listing => simp [folders, listed] at nothing

/-- Where nothing is left to be listed, all listings have been released. -/
theorem Balanced.closed_of_folders {walker : Walker} (balanced : walker.Balanced)
    (nothing : walker.folders = []) : walker.closed = walker.opened := by
  rw [balanced.opened, listing_of_folders nothing]
  rfl

end Walker

/-! ## What a caller asks for -/

/-- What a caller asks a walk or a stream for: to hand out the next one or all that are left, or to be
given up. -/
inductive Demand where
  | pull (call : WalkCall)
  | close
  deriving DecidableEq, Repr

namespace Walker

/-- The walk behind a demand, and whether the demand has ended it: it has told that nothing is left,
or it was given up. -/
def serve (walker : Walker) : Demand → Bool × Walker
  | .pull call => ((walker.answer call).ended, (walker.answer call).walker)
  | .close => (true, walker.close)

def serveAll (walker : Walker) : List Demand → Bool × Walker
  | [] => (false, walker)
  | demand :: rest =>
    let (ended, after) := walker.serve demand
    let (later, last) := after.serveAll rest
    (ended || later, last)

theorem folders_close (walker : Walker) : walker.close.folders = [] := by
  cases listed : walker.listing <;> simp [close, release, folders, listed]

theorem tidy_serve {walker : Walker} (tidy : walker.Tidy) (demand : Demand) :
    (walker.serve demand).2.Tidy := by
  cases demand with
  | pull call =>
      cases call with
      | next => exact tidy_next walker tidy
      | drain => exact kept_drain tidy_next walker tidy
  | close => exact tidy_close tidy

theorem tidy_serveAll (demands : List Demand) : ∀ {walker : Walker}, walker.Tidy →
    (walker.serveAll demands).2.Tidy := by
  induction demands with
  | nil => exact id
  | cons demand rest ih => exact fun tidy => ih (tidy_serve tidy demand)

theorem folders_serve {walker : Walker} {demand : Demand}
    (finished : (walker.serve demand).1 = true ∨ walker.folders = []) :
    (walker.serve demand).2.folders = [] := by
  cases demand with
  | pull call =>
      rcases finished with ended | nothing
      · exact folders_answer ended
      · exact folders_answer_of_nil nothing call
  | close => exact folders_close walker

/-- A walk that is over stays so. -/
theorem folders_serveAll (demands : List Demand) : ∀ {walker : Walker},
    (walker.serveAll demands).1 = true ∨ walker.folders = [] →
      (walker.serveAll demands).2.folders = [] := by
  induction demands with
  | nil =>
      intro walker finished
      exact finished.resolve_left Bool.noConfusion
  | cons demand rest ih =>
      intro walker finished
      rcases finished with told | nothing
      · rcases Bool.or_eq_true_iff.mp told with now | later
        · exact ih (Or.inr (folders_serve (Or.inl now)))
        · exact ih (Or.inl later)
      · exact ih (Or.inr (folders_serve (Or.inr nothing)))

end Walker

end SourceIndex
