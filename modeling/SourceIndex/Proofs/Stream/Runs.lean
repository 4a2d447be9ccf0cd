import SourceIndex.Proofs.Stream.Pulls
import SourceIndex.Text.Glob

/-! # Runs of pulls

Whoever pulls from a stream gets the records of the files that the walk finds, in order.  A pull in
which the callback gives up loses none of them, and no file is read before the records of those in
front of it are used up (`pulls_refine`). -/
set_option autoImplicit false
namespace SourceIndex

namespace Stream

/-- Pull so many times: what the pulls give, and the stream behind them. -/
def pulls (stream : Stream) : Nat → List Pull × Stream
  | 0 => ([], stream)
  | count + 1 =>
    let (earlier, after) := stream.pulls count
    let (pull, last, _) := after.next
    (earlier ++ [pull], last)

theorem length_pulls (stream : Stream) (count : Nat) : (stream.pulls count).1.length = count := by
  induction count with
  | zero => rfl
  | succ count ih => exact List.length_append.trans (congrArg (· + 1) ih)

def Ended (stream : Stream) : Prop := stream.walker.folders = [] ∧ stream.buffered = []

theorem next_of_ended {stream : Stream} (ended : stream.Ended) :
    stream.next.1 = .exhausted ∧ stream.next.2.1.Ended := by
  obtain ⟨passed, passes, pulled⟩ := stream.passes_next
  have files := passes.walker.files
  rw [Walker.filesLeft_of_folders ended.1] at files
  have none : passed = [] := (List.append_eq_nil_iff.mp files.symm).1
  cases pull : stream.next.1 with
  | record =>
      rw [pull] at pulled
      rcases pulled with ⟨full, _⟩ | ⟨_, front, file, last, _⟩
      · exact absurd ended.2 full
      · rw [none] at last
        exact absurd last.symm (List.append_ne_nil_of_right_ne_nil _ (List.cons_ne_nil _ _))
  | exhausted =>
      rw [pull] at pulled
      exact ⟨rfl, pulled⟩
  | failed failure =>
      rw [pull] at pulled
      obtain ⟨_, file, among, _⟩ := pulled
      rw [none] at among
      cases among

theorem ended_close (stream : Stream) : stream.close.Ended := by
  refine ⟨?_, rfl⟩
  cases listed : stream.walker.listing <;>
    simp [close, settle, Walker.close, Walker.release, Walker.folders, listed]

theorem pulls_of_ended {stream : Stream} (ended : stream.Ended) : ∀ count,
    (stream.pulls count).2.Ended ∧ ∀ pull ∈ (stream.pulls count).1, pull = .exhausted := by
  intro count
  induction count with
  | zero => exact ⟨ended, fun pull impossible => by cases impossible⟩
  | succ count ih =>
      obtain ⟨told, stays⟩ := next_of_ended ih.1
      refine ⟨stays, ?_⟩
      intro pull member
      rcases List.mem_append.mp member with earlier | latest
      · exact ih.2 pull earlier
      · exact (List.mem_singleton.mp latest).trans told

/-- Without an end the pulls are those that give a record and those that fail. -/
theorem length_of_not_exhausted {pulls : List Pull} (goesOn : .exhausted ∉ pulls) :
    pulls.length = (pulls.filterMap Pull.record?).length + pulls.countP Pull.isFailed := by
  induction pulls with
  | nil => rfl
  | cons pull rest ih =>
      have behind := ih fun later => goesOn (List.mem_cons_of_mem _ later)
      rw [List.length_cons, behind]
      cases pull with
      | record =>
          simp only [List.filterMap_cons, Pull.record?, List.countP_cons, Pull.isFailed,
            List.length_cons, Bool.false_eq_true, if_false]
          omega
      | exhausted => exact absurd List.mem_cons_self goesOn
      | failed =>
          simp only [List.filterMap_cons, Pull.record?, List.countP_cons, Pull.isFailed, if_true]
          omega

/-- What holds of a stream behind pulls: the files in `passed` are those that it has passed since it
was `start`. -/
structure Reached (start : Stream) (pulls : List Pull) (passed : List FoundFile)
    (stream : Stream) : Prop where
  passes : Passes start passed (pulls.filterMap Pull.record?) stream
  /-- The buffer holds records of the last file only. -/
  buffer : stream.buffered ≠ [] → ∃ front file, passed = front ++ [file] ∧
    (front.flatMap start.recordsOf).length ≤ (pulls.filterMap Pull.record?).length
  /-- The record that was pulled last is of the last file. -/
  latest : ∀ record, pulls.getLast? = some (.record record) →
    ∃ front file, passed = front ++ [file] ∧
      (front.flatMap start.recordsOf).length < (pulls.filterMap Pull.record?).length
  ended : .exhausted ∈ pulls → stream.Ended
  failures : ∀ failure, .failed failure ∈ pulls → ∃ file, start.FailsAt file failure
  /-- Each failure has used up a file. -/
  bounded : pulls.countP Pull.isFailed ≤ passed.countP fun file => (start.outcome file).mayFail

namespace Reached

variable {start stream : Stream} {pulls : List Pull} {passed : List FoundFile}

theorem refl (start : Stream) (empty : start.buffered = []) : Reached start [] [] start where
  passes := .refl start
  buffer := fun full => absurd empty full
  latest := fun record impossible => by cases impossible
  ended := fun impossible => by cases impossible
  failures := fun failure impossible => by cases impossible
  bounded := Nat.le_refl 0

/-- The record that is pulled next is of the last file passed then. -/
theorem latest_next (reached : Reached start pulls passed stream) {more : List FoundFile}
    {after : Stream} {record : Record} (pulled : Pulled stream more after (.record record)) :
    ∃ front file, passed ++ more = front ++ [file] ∧
      (front.flatMap start.recordsOf).length ≤ (pulls.filterMap Pull.record?).length := by
  rcases pulled with ⟨full, rfl⟩ | ⟨empty, front, file, rfl, none⟩
  · obtain ⟨front, file, last, used⟩ := reached.buffer full
    exact ⟨front, file, (List.append_nil _).trans last, used⟩
  · refine ⟨passed ++ front, file, (List.append_assoc ..).symm, ?_⟩
    have records := congrArg List.length reached.passes.records
    rw [empty, List.append_nil, List.length_append] at records
    -- the buffer is empty, so all records of the files passed so far have been given
    rw [reached.passes.handles.recordsOf] at none
    rw [List.flatMap_append, none, List.append_nil]
    omega

theorem filterMap_record?_concat (pulls : List Pull) (pull : Pull) :
    (pulls ++ [pull]).filterMap Pull.record? = pulls.filterMap Pull.record? ++ pull.record?.toList := by
  cases pull <;> simp [Pull.record?]

theorem failures_next (reached : Reached start pulls passed stream) {pull : Pull}
    (cause : ∀ failure, pull = .failed failure → ∃ file, start.FailsAt file failure) :
    ∀ failure, .failed failure ∈ pulls ++ [pull] → ∃ file, start.FailsAt file failure := by
  intro failure member
  rcases List.mem_append.mp member with earlier | latest
  · exact reached.failures failure earlier
  · exact cause failure (List.mem_singleton.mp latest).symm

theorem bounded_next (reached : Reached start pulls passed stream) {more : List FoundFile}
    {pull : Pull} (used : pull.isFailed = true → ∃ file ∈ more, (start.outcome file).mayFail = true) :
    (pulls ++ [pull]).countP Pull.isFailed ≤
      (passed ++ more).countP fun file => (start.outcome file).mayFail := by
  have earlier := reached.bounded
  rw [List.countP_append, List.countP_append, List.countP_singleton]
  split
  · rename_i failed
    have some := List.countP_pos_iff.mpr (used failed)
    omega
  · omega

/-- Where a pull does not tell the end, no earlier one has. -/
theorem not_ended_next (reached : Reached start pulls passed stream)
    (goesOn : stream.next.1 ≠ .exhausted) : .exhausted ∉ pulls ++ [stream.next.1] := by
  intro member
  rcases List.mem_append.mp member with earlier | latest
  · exact goesOn (next_of_ended (reached.ended earlier)).1
  · exact goesOn (List.mem_singleton.mp latest).symm

theorem next (reached : Reached start pulls passed stream) :
    ∃ more, Reached start (pulls ++ [stream.next.1]) (passed ++ more) stream.next.2.1 := by
  obtain ⟨more, passes, pulled⟩ := stream.passes_next
  have whole := reached.passes.trans passes
  have goesOn := reached.not_ended_next
  rw [← filterMap_record?_concat] at whole
  generalize stream.next.1 = pull at *
  generalize stream.next.2.1 = after at *
  cases pull with
  | record record =>
      obtain ⟨front, file, last, used⟩ := reached.latest_next pulled
      have counted : ((pulls ++ [Pull.record record]).filterMap Pull.record?).length =
          (pulls.filterMap Pull.record?).length + 1 := by
        rw [filterMap_record?_concat]
        exact List.length_append
      refine ⟨more, whole, ?_, ?_, ?_, reached.failures_next ?_, reached.bounded_next Bool.noConfusion⟩
      · intro _
        exact ⟨front, file, last, by omega⟩
      · intro _ _
        exact ⟨front, file, last, by omega⟩
      · exact fun told => absurd told (goesOn (by simp))
      · intro failure impossible
        cases impossible
  | exhausted =>
      refine ⟨more, whole, ?_, ?_, fun _ => pulled, reached.failures_next ?_,
        reached.bounded_next Bool.noConfusion⟩
      · exact fun full => absurd pulled.2 full
      · intro _ latest
        simp at latest
      · intro failure impossible
        cases impossible
  | failed failure =>
      obtain ⟨empty, file, among, fails⟩ := pulled
      have cause : start.FailsAt file failure := reached.passes.handles.failsAt fails
      refine ⟨more, whole, ?_, ?_, ?_, reached.failures_next ?_, reached.bounded_next ?_⟩
      · exact fun full => absurd empty full
      · intro _ latest
        simp at latest
      · exact fun told => absurd told (goesOn (by simp))
      · intro other same
        cases same
        exact ⟨file, cause⟩
      · intro _
        obtain ⟨_, result, _⟩ := cause
        exact ⟨file, among, FileOutcome.mayFail_of_result result⟩

theorem handed (reached : Reached start pulls passed stream) (empty : start.buffered = []) :
    passed.flatMap start.recordsOf = pulls.filterMap Pull.record? ++ stream.buffered := by
  have records := reached.passes.records
  rw [empty, List.nil_append] at records
  exact records

/-- All records are those given, those that are buffered, and those of the files that are left. -/
theorem records (reached : Reached start pulls passed stream) (empty : start.buffered = []) :
    start.walker.filesLeft.flatMap start.recordsOf = pulls.filterMap Pull.record? ++
      (stream.buffered ++ stream.walker.filesLeft.flatMap start.recordsOf) := by
  rw [reached.passes.walker.files, List.flatMap_append, reached.handed empty, List.append_assoc]

/-- Who pulls more often than there are records and files to fail at is told the end. -/
theorem exhausted_of_lt (reached : Reached start pulls passed stream) (empty : start.buffered = [])
    (enough : (start.walker.filesLeft.flatMap start.recordsOf).length +
      start.walker.filesLeft.countP (fun file => (start.outcome file).mayFail) < pulls.length) :
    .exhausted ∈ pulls := by
  refine Decidable.byContradiction fun goesOn => ?_
  have all := length_of_not_exhausted goesOn
  have failed := reached.bounded
  rw [reached.records empty, reached.passes.walker.files, List.length_append,
    List.countP_append] at enough
  omega

end Reached

theorem reached_pulls (start : Stream) (empty : start.buffered = []) (count : Nat) :
    ∃ passed, Reached start (start.pulls count).1 passed (start.pulls count).2 := by
  induction count with
  | zero => exact ⟨[], .refl start empty⟩
  | succ count ih =>
      obtain ⟨passed, reached⟩ := ih
      obtain ⟨more, further⟩ := reached.next
      exact ⟨passed ++ more, further⟩

end Stream

/-- What the pulls of a stream give refines the records of all files that the walk finds: they are a
front of these, also behind pulls in which the callback gave up, and all of them as soon as the
stream has told that nothing is left.  It tells so at last: a pull fails only where the callback gives
up, each time at another file that cannot be chunked.  When a record was pulled, just the files up to
the one it is of have been read.  Behind a close nothing is given any more. -/
theorem pulls_refine (root : Folder) (patterns : List String) (shelf : LanguageShelf)
    (onSkip : Option SkipCallback) {registry : Registry} (built : shelf.opened = .ok registry)
    (count : Nat) :
    let ignored := Glob.anyAccepts patterns
    let found := (Walker.start root ignored).drain.1
    let records := fun file => (FileOutcome.of (.ok registry) file).records
    let supported := fun file : FoundFile => (registry.ofPath file.path).isSome
    let unchunkable := fun file => (FileOutcome.of (.ok registry) file).skipped?.isSome
    let run := (Stream.start root ignored shelf onSkip).pulls count
    let given := run.1.filterMap Pull.record?
    given <+: found.flatMap records ∧
    (.exhausted ∈ run.1 → given = found.flatMap records) ∧
    ((found.flatMap records).length + found.countP unchunkable < count → .exhausted ∈ run.1) ∧
    (∀ record, run.1.getLast? = some (.record record) →
      ∃ front file back, found = front ++ file :: back ∧
        (front.flatMap records).length < given.length ∧
        given.length ≤ ((front ++ [file]).flatMap records).length ∧
        run.2.reads = ((front ++ [file]).filter supported).map FoundFile.path) ∧
    (∀ failure, .failed failure ∈ run.1 → failure = .skipCallback ∧
      ∃ callback told, onSkip = some callback ∧ callback told = true) ∧
    ∀ more, ∀ pull ∈ (run.2.close.pulls more).1, pull = .exhausted := by
  intro ignored found records supported unchunkable run given
  let start := Stream.start root ignored shelf onSkip
  obtain ⟨passed, reached⟩ := Stream.reached_pulls start rfl count
  have outcome : start.outcome = .of (.ok registry) := congrArg FileOutcome.of built
  have own : start.recordsOf = records := by
    funext file
    exact congrArg FileOutcome.records (congrFun outcome file)
  have left : found = start.walker.filesLeft := Walker.drain_eq_filesLeft _
  have files : found = passed ++ run.2.walker.filesLeft := left.trans reached.passes.walker.files
  have whole := reached.records rfl
  rw [← left, own] at whole
  have failing : (fun file => (start.outcome file).mayFail) = unchunkable := by
    funext file
    rw [outcome]
    exact FileOutcome.mayFail_of_ok registry file
  refine ⟨⟨_, whole.symm⟩, ?_, ?_, ?_, ?_, ?_⟩
  · intro told
    have ended := reached.ended told
    rw [whole, ended.2, Walker.filesLeft_of_folders ended.1]
    exact (List.append_nil _).symm
  · intro enough
    refine reached.exhausted_of_lt rfl ?_
    rw [← left, own, failing, Stream.length_pulls]
    exact enough
  · intro record last
    obtain ⟨front, file, ends, used⟩ := reached.latest record last
    rw [own] at used
    refine ⟨front, file, run.2.walker.filesLeft, ?_, used, ?_, ?_⟩
    · rw [files, ends, List.append_assoc]
      rfl
    · rw [← ends, ← own, reached.handed rfl, List.length_append]
      exact Nat.le_add_right _ _
    · have reads := reached.passes.handles.reads
      have same : (fun file => (start.outcome file).isRead) = supported := by
        funext file
        rw [outcome]
        exact FileOutcome.isRead_of_ok registry file
      rw [same, ends] at reads
      exact reads
  · intro failure member
    obtain ⟨file, givesUp, fails, callback⟩ := reached.failures failure member
    rw [outcome] at fails
    obtain ⟨own, gives⟩ := FileOutcome.result_of_ok fails
    exact ⟨own, callback gives⟩
  · intro more
    exact (Stream.pulls_of_ended run.2.ended_close more).2

/-- A directory with a file that has no syntax tree in front of one with a word. -/
def halfReadable : Folder where
  path := .ofString "src"
  conduct := {}
  entries :=
    [.leaf "broken.rs" (.file ⟨.ok [0x28], none⟩),
      .leaf "word.rs" (.file ⟨.ok [0x61], some (.node ⟨0, 1, ⟨0, 0⟩, ⟨0, 1⟩⟩ [])⟩)]

/-- Languages with a budget of two words. -/
def freshShelf : LanguageShelf := ⟨{}, 2, none⟩

theorem halfReadable_pulls :
    ∃ registry, freshShelf.opened = .ok registry ∧
      let ignored := Glob.anyAccepts ["*.tmp"]
      let found := (Walker.start halfReadable ignored).drain.1
      let records := fun file => (FileOutcome.of (.ok registry) file).records
      let supported := fun file : FoundFile => (registry.ofPath file.path).isSome
      let unchunkable := fun file => (FileOutcome.of (.ok registry) file).skipped?.isSome
      let run := (Stream.start halfReadable ignored freshShelf (some fun _ => true)).pulls 3
      let given := run.1.filterMap Pull.record?
      given <+: found.flatMap records ∧
      (.exhausted ∈ run.1 → given = found.flatMap records) ∧
      ((found.flatMap records).length + found.countP unchunkable < 3 → .exhausted ∈ run.1) ∧
      (∀ record, run.1.getLast? = some (.record record) →
        ∃ front file back, found = front ++ file :: back ∧
          (front.flatMap records).length < given.length ∧
          given.length ≤ ((front ++ [file]).flatMap records).length ∧
          run.2.reads = ((front ++ [file]).filter supported).map FoundFile.path) ∧
      (∀ failure, .failed failure ∈ run.1 → failure = .skipCallback ∧
        ∃ callback told, (some fun _ => true : Option SkipCallback) = some callback ∧
          callback told = true) ∧
      ∀ more, ∀ pull ∈ (run.2.close.pulls more).1, pull = .exhausted :=
  ⟨_, rfl, pulls_refine halfReadable ["*.tmp"] freshShelf (some fun _ => true) rfl 3⟩

end SourceIndex
