import SourceIndex.Proofs.Stream.Runs
import SourceIndex.Proofs.Walk.Listings

/-! # What is asked of a stream

Records are pulled from a stream one by one or all at once, and it can be given up at any time, also
in the middle of a file or behind its end.  What each pull of a walk keeps is kept by all of these
(`walker_serveAll`), and a stream that is over stays so (`settled_serveAll`). -/
set_option autoImplicit false
namespace SourceIndex

/-- What a stream has given: the records that were handed out, what happened on the way, and whether it
has told that nothing is left or was given up; and the stream behind that. -/
structure StreamAnswer where
  records : List Record
  events : List Event
  ended : Bool
  stream : Stream

namespace Stream

def serve (stream : Stream) : Demand → StreamAnswer
  | .pull .next =>
    ⟨stream.next.1.record?.toList, stream.next.2.2, stream.next.1 = .exhausted, stream.next.2.1⟩
  | .pull .drain =>
    ⟨stream.drain.1, stream.drain.2.2.2, stream.drain.2.1.isNone, stream.drain.2.2.1⟩
  | .close => ⟨[], [], true, stream.close⟩

def serveAll (stream : Stream) : List Demand → StreamAnswer
  | [] => ⟨[], [], false, stream⟩
  | demand :: rest =>
    let first := stream.serve demand
    let others := first.stream.serveAll rest
    ⟨first.records ++ others.records, first.events ++ others.events, first.ended || others.ended,
      others.stream⟩

/-! ## The walk of a stream -/

section Walk
variable {P : Walker → Prop}

theorem walker_next (next : ∀ walker : Walker, P walker → P walker.next.2.1) (stream : Stream) :
    P stream.walker → P stream.next.2.1.walker := by
  fun_induction Stream.next stream with
  | case1 => exact id
  | case2 stream empty walker events walked =>
      intro holds
      have behind := next stream.walker holds
      rw [walked] at behind
      exact behind
  | case3 stream empty file walker events walked failure after more processed =>
      intro holds
      have behind := next stream.walker holds
      rw [walked] at behind
      rw [(processed_of_eq processed).walker]
      exact behind
  | case4 stream empty file walker events walked records after more processed pull last rest result
      ih =>
      intro holds
      have behind := next stream.walker holds
      rw [walked] at behind
      rw [result] at ih
      refine ih ?_
      show P after.walker
      rw [(processed_of_eq processed).walker]
      exact behind

theorem walker_drain (next : ∀ walker : Walker, P walker → P walker.next.2.1) (stream : Stream) :
    P stream.walker → P stream.drain.2.2.1.walker := by
  fun_induction Stream.drain stream with
  | case1 stream last events pulled =>
      intro holds
      have behind := walker_next next stream holds
      rw [pulled] at behind
      exact behind
  | case2 stream failure last events pulled =>
      intro holds
      have behind := walker_next next stream holds
      rw [pulled] at behind
      exact behind
  | case3 stream record after events pulled records failure last more result ih =>
      intro holds
      have behind := walker_next next stream holds
      rw [pulled] at behind
      rw [result] at ih
      exact ih behind

/-- What a pull and a close of a walk keep is kept by all that is asked of its stream. -/
theorem walker_serveAll (next : ∀ walker : Walker, P walker → P walker.next.2.1)
    (close : ∀ walker : Walker, P walker → P walker.close) (demands : List Demand) :
    ∀ {stream : Stream}, P stream.walker → P (stream.serveAll demands).stream.walker := by
  induction demands with
  | nil => exact id
  | cons demand rest ih =>
      intro stream holds
      have behind : P (stream.serve demand).stream.walker := by
        cases demand with
        | pull call =>
            cases call with
            | next => exact walker_next next stream holds
            | drain => exact walker_drain next stream holds
        | close => exact close stream.walker holds
      exact ih behind

end Walk

/-! ## The end of a stream -/

/-- The stream gives nothing any more and has taken the walk's count over. -/
structure Settled (stream : Stream) : Prop where
  ended : stream.Ended
  counted : stream.stats.directoriesSkipped = stream.walker.skipped

theorem counted_of_exhausted {stream : Stream} : stream.next.1 = .exhausted →
    stream.next.2.1.stats.directoriesSkipped = stream.next.2.1.walker.skipped := by
  fun_induction Stream.next stream with
  | case1 => exact fun impossible => by cases impossible
  | case2 => exact fun _ => rfl
  | case3 => exact fun impossible => by cases impossible
  | case4 stream empty file walker events walked records after more processed pull last rest result
      ih =>
      rw [result] at ih
      exact ih

theorem settled_next {stream : Stream} (exhausted : stream.next.1 = .exhausted) :
    stream.next.2.1.Settled := by
  obtain ⟨passed, _, pulled⟩ := stream.passes_next
  rw [exhausted] at pulled
  exact ⟨pulled, counted_of_exhausted exhausted⟩

theorem settled_drain {stream : Stream} : stream.drain.2.1 = none →
    stream.drain.2.2.1.Settled := by
  fun_induction Stream.drain stream with
  | case1 stream last events pulled =>
      intro _
      have settled := @settled_next stream (by rw [pulled])
      rw [pulled] at settled
      exact settled
  | case2 => exact fun impossible => by cases impossible
  | case3 stream record after events pulled records failure last more result ih =>
      rw [result] at ih
      exact ih

theorem settled_close (stream : Stream) : stream.close.Settled := ⟨stream.ended_close, rfl⟩

theorem drain_of_ended {stream : Stream} (ended : stream.Ended) : stream.drain.2.1 = none := by
  have exhausted := (next_of_ended ended).1
  rw [drain]
  split
  · rfl
  · rename_i pulled
    rw [pulled] at exhausted
    cases exhausted
  · rename_i pulled
    rw [pulled] at exhausted
    cases exhausted

theorem settled_serve {stream : Stream} {demand : Demand}
    (finished : (stream.serve demand).ended = true ∨ stream.Ended) :
    (stream.serve demand).stream.Settled := by
  cases demand with
  | pull call =>
      cases call with
      | next =>
          rcases finished with told | ended
          · exact settled_next (of_decide_eq_true told)
          · exact settled_next (next_of_ended ended).1
      | drain =>
          rcases finished with told | ended
          · exact settled_drain (Option.isNone_iff_eq_none.mp told)
          · exact settled_drain (drain_of_ended ended)
  | close => exact stream.settled_close

theorem settled_serveAll (demands : List Demand) : ∀ {stream : Stream},
    (stream.serveAll demands).ended = true ∨ stream.Settled →
      (stream.serveAll demands).stream.Settled := by
  induction demands with
  | nil =>
      intro stream finished
      exact finished.resolve_left Bool.noConfusion
  | cons demand rest ih =>
      intro stream finished
      rcases finished with told | settled
      · rcases Bool.or_eq_true_iff.mp told with now | later
        · exact ih (Or.inr (settled_serve (Or.inl now)))
        · exact ih (Or.inl later)
      · exact ih (Or.inr (settled_serve (Or.inr settled.ended)))

end Stream

end SourceIndex
