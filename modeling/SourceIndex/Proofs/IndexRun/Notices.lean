import SourceIndex.IndexRun
import SourceIndex.Proofs.Collection.Inserts

/-! # What is noticed of a run

Of what is noticed of a run the stages that were announced, the files that were skipped and the calls
on the server are told apart (`Noticed`).  A callback that is not there hears nothing, and the calls do
not depend on callbacks. -/
set_option autoImplicit false
namespace SourceIndex

def Stage.all : List Stage :=
  [.chunkStarted, .chunkCompleted, .embeddingStarted, .embeddingCompleted, .insertStarted,
    .insertCompleted]

def Notice.stage? : Notice → Option Stage
  | .stage announced => some announced
  | _ => none

def Notice.skipped? : Notice → Option SkippedFile
  | .skipped file => some file
  | _ => none

def Notice.call? : Notice → Option ServerCall
  | .call made => some made
  | _ => none

def Occurrence.call? : Occurrence → Option ServerCall
  | .call made => some made
  | _ => none

/-- Just these stages are announced, these files skipped and these calls made, each in this order. -/
structure Noticed (notices : List Notice) (stages : List Stage) (skipped : List SkippedFile)
    (calls : List ServerCall) : Prop where
  stages : notices.filterMap Notice.stage? = stages
  skipped : notices.filterMap Notice.skipped? = skipped
  calls : notices.filterMap Notice.call? = calls

namespace Noticed

theorem nil : Noticed [] [] [] [] := ⟨rfl, rfl, rfl⟩

theorem append {first second : List Notice} {stages later : List Stage}
    {skipped others : List SkippedFile} {calls more : List ServerCall}
    (front : Noticed first stages skipped calls) (back : Noticed second later others more) :
    Noticed (first ++ second) (stages ++ later) (skipped ++ others) (calls ++ more) where
  stages := by rw [List.filterMap_append, front.stages, back.stages]
  skipped := by rw [List.filterMap_append, front.skipped, back.skipped]
  calls := by rw [List.filterMap_append, front.calls, back.calls]

/-- Notices that are of none of the three kinds. -/
theorem of_silent {notices : List Notice}
    (silent : ∀ notice ∈ notices,
      notice.stage? = none ∧ notice.skipped? = none ∧ notice.call? = none) :
    Noticed notices [] [] [] where
  stages := List.filterMap_eq_nil_iff.mpr fun notice among => (silent notice among).1
  skipped := List.filterMap_eq_nil_iff.mpr fun notice among => (silent notice among).2.1
  calls := List.filterMap_eq_nil_iff.mpr fun notice among => (silent notice among).2.2

theorem of_events (events : List Event) : Noticed (events.map .event) [] [] [] := by
  refine of_silent ?_
  intro notice among
  obtain ⟨event, _, rfl⟩ := List.mem_map.mp among
  exact ⟨rfl, rfl, rfl⟩

theorem of_embedded (progress : List (Nat × Nat)) :
    Noticed (progress.map fun (done, total) => .embedded done total) [] [] [] := by
  refine of_silent ?_
  intro notice among
  obtain ⟨_, _, rfl⟩ := List.mem_map.mp among
  exact ⟨rfl, rfl, rfl⟩

theorem of_stage (stage : Stage) : Noticed [.stage stage] [stage] [] [] := ⟨rfl, rfl, rfl⟩

theorem of_skipped (files : List SkippedFile) : Noticed (files.map .skipped) [] files [] := by
  induction files with
  | nil => exact nil
  | cons file rest ih =>
      have first : Noticed [.skipped file] [] [file] [] := ⟨rfl, rfl, rfl⟩
      exact first.append ih

theorem of_occurrences (occurrences : List Occurrence) :
    Noticed (occurrences.map Occurrence.notice) [] [] (occurrences.filterMap Occurrence.call?) := by
  induction occurrences with
  | nil => exact nil
  | cons occurrence rest ih =>
      have first : Noticed [occurrence.notice] [] [] ([occurrence].filterMap Occurrence.call?) := by
        cases occurrence <;> exact ⟨rfl, rfl, rfl⟩
      have both := first.append ih
      rw [← List.filterMap_append] at both
      exact both

end Noticed

theorem rows_of_calls (occurrences : List Occurrence) :
    (occurrences.filterMap Occurrence.call?).flatMap ServerCall.rows =
      occurrences.flatMap Occurrence.rows := by
  induction occurrences with
  | nil => rfl
  | cons occurrence rest ih =>
      rw [List.flatMap_cons, ← ih]
      cases occurrence <;> rfl

/-! ## What callbacks hear -/

section
variable (callbacks : IndexCallbacks) (notices : List Notice)

/-- Notices of one kind are all heard or all not. -/
theorem filterMap_hears {α : Type} {kind : Notice → Option α} {heard : Bool}
    (uniform : ∀ notice, kind notice ≠ none → callbacks.hears notice = heard) :
    (notices.filter callbacks.hears).filterMap kind =
      if heard then notices.filterMap kind else [] := by
  have same : ∀ notice, (if callbacks.hears notice then kind notice else none) =
      if heard then kind notice else none := by
    intro notice
    cases found : kind notice with
    | none => simp
    | some given => rw [uniform notice (by simp [found])]
  rw [List.filterMap_filter, funext same]
  cases heard with
  | false => exact List.filterMap_eq_nil_iff.mpr fun _ _ => rfl
  | true => rfl

theorem filterMap_stage?_hears : (notices.filter callbacks.hears).filterMap Notice.stage? =
    if callbacks.stage.isSome then notices.filterMap Notice.stage? else [] := by
  refine filterMap_hears callbacks notices ?_
  intro notice some
  cases notice with
  | stage => rfl
  | _ => exact absurd rfl some

theorem filterMap_skipped?_hears : (notices.filter callbacks.hears).filterMap Notice.skipped? =
    if callbacks.skip then notices.filterMap Notice.skipped? else [] := by
  refine filterMap_hears callbacks notices ?_
  intro notice some
  cases notice with
  | skipped => rfl
  | _ => exact absurd rfl some

theorem filterMap_call?_hears : (notices.filter callbacks.hears).filterMap Notice.call? =
    notices.filterMap Notice.call? := by
  have always : ∀ notice, Notice.call? notice ≠ none → callbacks.hears notice = true := by
    intro notice some
    cases notice with
    | call => rfl
    | _ => exact absurd rfl some
  exact filterMap_hears callbacks notices always

end

end SourceIndex
