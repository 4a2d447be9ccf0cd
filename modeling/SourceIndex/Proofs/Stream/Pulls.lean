import SourceIndex.Proofs.Stream.Outcomes
import SourceIndex.Proofs.Walk.Moves

/-! # How a stream moves on

From one state of a stream to a later one files are passed, and the records handed out are those of
the files passed, less what is still buffered (`Stream.Passes`).  A pull passes files without records
and then at most one more (`passes_next`), also when the callback gives up in it. -/
set_option autoImplicit false
namespace SourceIndex

def Pull.record? : Pull → Option Record
  | .record given => some given
  | _ => none

def Pull.isFailed : Pull → Bool
  | .failed _ => true
  | _ => false

namespace Stream

def recordsOf (stream : Stream) (file : FoundFile) : List Record := (stream.outcome file).records

/-- From one state of a stream to a later one just these files are passed and just these records
handed out, and nothing is lost in between. -/
structure Passes (before : Stream) (passed : List FoundFile) (given : List Record)
    (after : Stream) : Prop where
  handles : Handles before passed after
  walker : Walker.Moves before.walker passed after.walker
  records : before.buffered ++ passed.flatMap before.recordsOf = given ++ after.buffered

theorem Handles.recordsOf {before after : Stream} {files : List FoundFile}
    (handles : Handles before files after) : after.recordsOf = before.recordsOf :=
  funext fun file => congrArg FileOutcome.records (congrFun handles.outcome file)

namespace Passes

theorem refl (stream : Stream) : Passes stream [] [] stream :=
  ⟨.refl stream, .refl stream.walker, List.append_nil _⟩

theorem trans {first second third : Stream} {passed more : List FoundFile}
    {given others : List Record} (front : Passes first passed given second)
    (back : Passes second more others third) :
    Passes first (passed ++ more) (given ++ others) third where
  handles := front.handles.trans back.handles
  walker := front.walker.trans back.walker
  records := by
    have records := back.records
    rw [front.handles.recordsOf] at records
    rw [List.flatMap_append, ← List.append_assoc, front.records, List.append_assoc, records,
      List.append_assoc]

end Passes

/-- What is known of a pull by what it gives: a record is taken from the buffer or is of the last
file passed, none of those before it having any. -/
def Pulled (before : Stream) (passed : List FoundFile) (after : Stream) : Pull → Prop
  | .record _ =>
    (before.buffered ≠ [] ∧ passed = []) ∨
      before.buffered = [] ∧
        ∃ front file, passed = front ++ [file] ∧ front.flatMap before.recordsOf = []
  | .exhausted => after.walker.folders = [] ∧ after.buffered = []
  | .failed failure => after.buffered = [] ∧ ∃ file ∈ passed, before.FailsAt file failure

section
variable {stream after : Stream} {walker : Walker} {file : FoundFile}
  (empty : stream.buffered = []) (moves : Walker.Moves stream.walker [file] walker)
include empty moves

theorem passes_of_chunked {records : List Record}
    (processed : Processed { stream with walker } file (.ok records) after) :
    Passes stream [file] [] { after with buffered := records } := by
  have handles := processed.handles
  have own : stream.recordsOf file = records :=
    FileOutcome.records_of_result processed.result.symm
  refine ⟨handles.aside, ?_, ?_⟩
  · exact processed.walker ▸ moves
  · rw [empty, List.flatMap_singleton, own]

theorem passes_of_failed {failure : Failure}
    (processed : Processed { stream with walker } file (.error failure) after) :
    Passes stream [file] [] after ∧ Pulled stream [file] after (.failed failure) := by
  have handles := processed.handles
  have result := processed.result.symm
  have buffered : after.buffered = [] := processed.buffered.trans empty
  have none : stream.recordsOf file = [] := FileOutcome.records_of_fails result
  refine ⟨⟨handles.aside, ?_, ?_⟩, buffered, file, List.mem_cons_self, failsAt_of_result result⟩
  · exact processed.walker ▸ moves
  · rw [empty, List.flatMap_singleton, none, buffered]

end

/-- A pull behind a file whose records went to the buffer gives one of them, or the file had none. -/
theorem pulled_behind {stream second after : Stream} {file : FoundFile} {passed : List FoundFile}
    {pull : Pull} (empty : stream.buffered = []) (front : Passes stream [file] [] second)
    (pulled : Pulled second passed after pull) : Pulled stream (file :: passed) after pull := by
  have own : stream.recordsOf file = second.buffered := by
    have records := front.records
    rw [empty, List.flatMap_singleton] at records
    exact records
  cases pull with
  | record =>
      refine .inr ⟨empty, ?_⟩
      rcases pulled with ⟨_, rfl⟩ | ⟨nothing, before, last, rfl, none⟩
      · exact ⟨[], file, rfl, rfl⟩
      · refine ⟨file :: before, last, rfl, ?_⟩
        rw [front.handles.recordsOf] at none
        rw [List.flatMap_cons, own, nothing, none]
        rfl
  | exhausted => exact pulled
  | failed failure =>
      obtain ⟨buffered, other, among, fails⟩ := pulled
      exact ⟨buffered, other, List.mem_cons_of_mem _ among, front.handles.failsAt fails⟩

/-- A pull passes files and gives at most one record. -/
theorem passes_next (stream : Stream) :
    ∃ passed, Passes stream passed stream.next.1.record?.toList stream.next.2.1 ∧
      Pulled stream passed stream.next.2.1 stream.next.1 := by
  fun_induction next stream with
  | case1 stream record rest buffered =>
      have full : stream.buffered ≠ [] := buffered ▸ List.cons_ne_nil _ _
      refine ⟨[], ⟨(Handles.refl stream).aside, .refl _, ?_⟩, .inl ⟨full, rfl⟩⟩
      rw [buffered]
      exact List.append_nil _
  | case2 stream empty walker events walked =>
      have moves := stream.walker.moves_next
      have nothing := @Walker.folders_next stream.walker (by rw [walked])
      rw [walked] at moves nothing
      exact ⟨[], ⟨(Handles.refl stream).aside, moves, (Passes.refl stream).records⟩, nothing, empty⟩
  | case3 stream empty file walker events walked failure after more processed =>
      have moves := stream.walker.moves_next
      rw [walked] at moves
      obtain ⟨passes, pulled⟩ := passes_of_failed empty moves (processed_of_eq processed)
      exact ⟨[file], passes, pulled⟩
  | case4 stream empty file walker events walked records after more processed pull last rest
      result ih =>
      have moves := stream.walker.moves_next
      rw [walked] at moves
      rw [result] at ih
      have front := passes_of_chunked empty moves (processed_of_eq processed)
      obtain ⟨passed, passes, pulled⟩ := ih
      exact ⟨file :: passed, front.trans passes, pulled_behind empty front pulled⟩

/-- Draining a stream passes files and hands out records; where nothing fails, all that are left. -/
theorem passes_drain (stream : Stream) :
    ∃ passed, Passes stream passed stream.drain.1 stream.drain.2.2.1 ∧
      (stream.drain.2.1 = none →
        stream.drain.2.2.1.walker.folders = [] ∧ stream.drain.2.2.1.buffered = []) := by
  fun_induction drain stream with
  | case1 stream last events pulled =>
      obtain ⟨passed, passes, ended⟩ := stream.passes_next
      rw [pulled] at passes ended
      exact ⟨passed, passes, fun _ => ended⟩
  | case2 stream failure last events pulled =>
      obtain ⟨passed, passes, _⟩ := stream.passes_next
      rw [pulled] at passes
      exact ⟨passed, passes, fun impossible => by cases impossible⟩
  | case3 stream record after events pulled records failure last more result ih =>
      obtain ⟨passed, passes, _⟩ := stream.passes_next
      rw [pulled] at passes
      rw [result] at ih
      obtain ⟨others, rest, ended⟩ := ih
      exact ⟨passed ++ others, passes.trans rest, ended⟩

/-- A stream that is drained without a failure has passed all files that were left, and given all
their records. -/
theorem drain_of_none {stream : Stream} (empty : stream.buffered = [])
    (whole : stream.drain.2.1 = none) :
    stream.drain.1 = stream.walker.filesLeft.flatMap stream.recordsOf ∧
      Handles stream stream.walker.filesLeft stream.drain.2.2.1 := by
  obtain ⟨passed, passes, ended⟩ := stream.passes_drain
  obtain ⟨nothing, used⟩ := ended whole
  have files : stream.walker.filesLeft = passed := by
    rw [passes.walker.files, Walker.filesLeft_of_folders nothing, List.append_nil]
  have records := passes.records
  rw [empty, used, List.nil_append, List.append_nil] at records
  rw [files]
  exact ⟨records.symm, passes.handles⟩

/-- A stream that is drained without a failure has counted all listings that were still to fail. -/
theorem skipped_of_drain {stream : Stream} (whole : stream.drain.2.1 = none) :
    stream.drain.2.2.1.walker.skipped = stream.walker.skipped + stream.walker.failuresLeft := by
  obtain ⟨passed, passes, ended⟩ := stream.passes_drain
  have failures := passes.walker.failures
  rw [Walker.failuresLeft_of_folders (ended whole).1] at failures
  exact failures.symm

theorem failsAt_of_drain {stream : Stream} {failure : Failure} :
    stream.drain.2.1 = some failure → ∃ file, stream.FailsAt file failure := by
  fun_induction drain stream with
  | case1 => exact fun impossible => by cases impossible
  | case2 stream cause last events pulled =>
      intro fails
      cases fails
      obtain ⟨passed, _, failed⟩ := stream.passes_next
      rw [pulled] at failed
      obtain ⟨_, file, _, failsAt⟩ := failed
      exact ⟨file, failsAt⟩
  | case3 stream record after events pulled records cause last more result ih =>
      intro fails
      obtain ⟨passed, passes, _⟩ := stream.passes_next
      rw [pulled] at passes
      rw [result] at ih
      obtain ⟨file, failsAt⟩ := ih fails
      exact ⟨file, passes.handles.failsAt failsAt⟩

/-- With the registry at hand a stream is drained, unless the callback gives up. -/
theorem drain_of_calm {stream : Stream} {registry : Registry}
    (built : stream.shelf.opened = .ok registry)
    (calm : ∀ callback, stream.onSkip = some callback → ∀ told, callback told = false) :
    stream.drain.2.1 = none := by
  cases fails : stream.drain.2.1 with
  | none => rfl
  | some failure =>
      obtain ⟨file, givesUp, result, cause⟩ := failsAt_of_drain fails
      rw [outcome, built] at result
      obtain ⟨callback, told, given, gives⟩ := cause (FileOutcome.result_of_ok result).2
      rw [calm callback given told] at gives
      cases gives

end Stream

end SourceIndex
