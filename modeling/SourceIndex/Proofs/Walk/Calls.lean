import SourceIndex.Proofs.Walk.Distinct
import SourceIndex.Proofs.Walk.Moves
import SourceIndex.Text.Glob

/-! # Calls on a walk

Whoever calls a walk may ask for the next file or for all files that are left, in any order and as
often as wanted.  The answers taken together are always the front of what the directory tree gives,
and all of it as soon as the walk has told that nothing is left (`answers_visit`). -/
set_option autoImplicit false
namespace SourceIndex

inductive WalkCall where
  | next
  | drain
  deriving DecidableEq, Repr

/-- What a walk has answered: the files, and whether it has told that nothing is left; and the walk
behind the answers. -/
structure WalkAnswer where
  files : List FoundFile
  ended : Bool
  walker : Walker

namespace Walker

def answer (walker : Walker) : WalkCall → WalkAnswer
  | .next => ⟨walker.next.1.toList, walker.next.1.isNone, walker.next.2.1⟩
  | .drain => ⟨walker.drain.1, true, walker.drain.2.1⟩

def answers (walker : Walker) : List WalkCall → WalkAnswer
  | [] => ⟨[], false, walker⟩
  | call :: rest =>
    let first := walker.answer call
    let others := first.walker.answers rest
    ⟨first.files ++ others.files, first.ended || others.ended, others.walker⟩

theorem moves_answer (walker : Walker) (call : WalkCall) :
    Moves walker (walker.answer call).files (walker.answer call).walker := by
  cases call with
  | next => exact moves_next walker
  | drain => exact moves_drain walker

theorem folders_answer {walker : Walker} {call : WalkCall}
    (ended : (walker.answer call).ended = true) : (walker.answer call).walker.folders = [] := by
  cases call with
  | next => exact folders_next (Option.isNone_iff_eq_none.mp ended)
  | drain => exact folders_drain walker

theorem moves_answers (calls : List WalkCall) : ∀ walker : Walker,
    Moves walker (walker.answers calls).files (walker.answers calls).walker := by
  induction calls with
  | nil => exact fun walker => .refl walker
  | cons call rest ih => exact fun walker => (moves_answer walker call).trans (ih _)

theorem folders_answer_of_nil {walker : Walker} (nothing : walker.folders = []) (call : WalkCall) :
    (walker.answer call).walker.folders = [] := by
  cases call with
  | next =>
      have files := (moves_next walker).files
      rw [filesLeft_of_folders nothing] at files
      cases found : walker.next.1 with
      | none => exact folders_next found
      | some file =>
          rw [found] at files
          cases files
  | drain => exact folders_drain walker

theorem folders_answers_of_nil (calls : List WalkCall) : ∀ {walker : Walker},
    walker.folders = [] → (walker.answers calls).walker.folders = [] := by
  induction calls with
  | nil => exact fun nothing => nothing
  | cons call rest ih => exact fun nothing => ih (folders_answer_of_nil nothing call)

theorem folders_answers (calls : List WalkCall) : ∀ {walker : Walker},
    (walker.answers calls).ended = true → (walker.answers calls).walker.folders = [] := by
  induction calls with
  | nil => exact fun impossible => Bool.noConfusion impossible
  | cons call rest ih =>
      intro walker ended
      rcases Bool.or_eq_true_iff.mp ended with now | later
      · exact folders_answers_of_nil rest (folders_answer now)
      · exact ih later

/-! ## Pulls end -/

/-- Walk on to the next file in at most so many steps. -/
def nextWithin : Nat → Walker → Option (Option FoundFile × Walker × List Event)
  | 0, _ => none
  | steps + 1, walker =>
    match walker.step with
    | .found file after => some (some file, after, [])
    | .moved after events =>
      (nextWithin steps after).map fun (file, last, more) => (file, last, events ++ more)
    | .exhausted => some (none, walker, [])

/-- A pull takes no more steps than there is to walk through, and one more. -/
theorem nextWithin_of_weight_le (walker : Walker) : ∀ steps, walker.weight ≤ steps →
    nextWithin (steps + 1) walker = some walker.next := by
  fun_induction next walker with
  | case1 walker file after found =>
      intro steps _
      simp only [nextWithin, found]
  | case2 walker after events moved file last more result ih =>
      intro steps enough
      have lighter := weight_of_step_moved moved
      obtain ⟨less, rfl⟩ : ∃ less, steps = less + 1 := ⟨steps - 1, by omega⟩
      have inner := ih less (by omega)
      rw [nextWithin]
      simp only [moved, inner, Option.map_some, result]
  | case3 walker exhausted =>
      intro steps _
      simp only [nextWithin, exhausted]

end Walker

/-- The files that a walk answers with are a front of those that the directory tree gives.  They
are all of them as soon as the walk has told that nothing is left; then it has counted each listing
on its way that failed.  Each pull ends, and no path is answered twice. -/
theorem answers_visit (root : Folder) (patterns : List String)
    (named : Entry.Named root.entries) (calls : List WalkCall) :
    let ignored := Glob.anyAccepts patterns
    let given := (Walker.start root ignored).answers calls
    given.files <+: root.visit ignored ∧
    (given.ended = true →
      given.files = root.visit ignored ∧
      given.walker.skipped = (root.visited ignored).countP Folder.fails) ∧
    given.walker.nextWithin (root.weight + 1) = some given.walker.next ∧
    (given.files.map FoundFile.path).Nodup := by
  intro ignored given
  have moves := Walker.moves_answers calls (Walker.start root ignored)
  have files : root.visit ignored = given.files ++ given.walker.filesLeft :=
    (Walker.filesLeft_start root ignored).symm.trans moves.files
  have failures : 0 + (root.visited ignored).countP Folder.fails =
      given.walker.skipped + given.walker.failuresLeft :=
    Walker.failuresLeft_start root ignored ▸ moves.failures
  refine ⟨⟨given.walker.filesLeft, files.symm⟩, ?_, ?_, ?_⟩
  · intro ended
    have nothing := Walker.folders_answers calls ended
    have noFile : given.walker.filesLeft = [] := Walker.filesLeft_of_folders nothing
    have noFailure : given.walker.failuresLeft = 0 := Walker.failuresLeft_of_folders nothing
    rw [noFile, List.append_nil] at files
    exact ⟨files.symm, by omega⟩
  · have lighter : given.walker.weight ≤ root.weight := moves.weight
    exact Walker.nextWithin_of_weight_le given.walker root.weight lighter
  · have distinct : (root.visit ignored).Pairwise fun first second => first.path ≠ second.path :=
      Folder.distinct_visit root named
    rw [files, List.pairwise_append] at distinct
    exact List.pairwise_map.mpr distinct.1

def emptyFile : Leaf := .file ⟨.ok [], none⟩

/-- A directory with a file, a link to a directory, a directory that cannot be listed, and one whose
listing breaks off behind its first file. -/
def brokenTree : Folder where
  path := .ofString "src"
  conduct := {}
  entries :=
    [.directory "old" { breaksAfter := some 1 } [.leaf "a.rs" emptyFile, .leaf "b.rs" emptyFile],
      .leaf "main.rs" emptyFile, .leaf "link" .linkedDirectory,
      .directory "shut" { opens := false } []]

theorem brokenTree_named : Entry.Named brokenTree.entries := by
  refine .intro (by decide) (by decide) ?_
  intro name conduct inner member
  simp only [brokenTree, List.mem_cons, Entry.directory.injEq, reduceCtorEq, false_or,
    List.not_mem_nil, or_false] at member
  rcases member with ⟨_, _, rfl⟩ | ⟨_, _, rfl⟩
  · exact .intro (by decide) (by decide) (by simp)
  · exact .intro (by decide) (by decide) (by simp)

theorem brokenTree_answers :
    Entry.Named brokenTree.entries ∧
    let ignored := Glob.anyAccepts ["*.tmp"]
    let given := (Walker.start brokenTree ignored).answers [.next, .drain, .next]
    given.files <+: brokenTree.visit ignored ∧
    (given.ended = true →
      given.files = brokenTree.visit ignored ∧
      given.walker.skipped = (brokenTree.visited ignored).countP Folder.fails) ∧
    given.walker.nextWithin (brokenTree.weight + 1) = some given.walker.next ∧
    (given.files.map FoundFile.path).Nodup :=
  ⟨brokenTree_named, answers_visit brokenTree ["*.tmp"] brokenTree_named [.next, .drain, .next]⟩

end SourceIndex
