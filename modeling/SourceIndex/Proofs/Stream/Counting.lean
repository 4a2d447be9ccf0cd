import SourceIndex.Proofs.Stream.Outcomes
import SourceIndex.Proofs.Walk.Moves

/-! # What a stream counts of a file

Each file that is taken from the walk is counted once besides being seen (`Stream.counted_process`), and
the log warns of it just when it cannot be chunked: the walk, the languages and the chunking of a file
that succeeds warn of nothing. -/
set_option autoImplicit false
namespace SourceIndex

/-- The event warns of a file that could not be chunked. -/
def Event.tellsOfFailure (event : Event) : Bool :=
  event.level = .warning && event.name = "chunk_file_failed"

def warningsOf (events : List Event) : List Event := events.filter Event.tellsOfFailure

@[simp] theorem warningsOf_append (front back : List Event) :
    warningsOf (front ++ back) = warningsOf front ++ warningsOf back := List.filter_append ..

/-! ## Who warns of nothing -/

theorem Walker.warnings_step {walker after : Walker} {events : List Event}
    (moved : walker.step = .moved after events) : warningsOf events = [] := by
  unfold step at moved
  split at moved
  · split at moved
    · rw [visit_eq] at moved
      split at moved
      · cases moved
      · cases moved
        rfl
    · cases moved
      rfl
    · cases moved
      rfl
  · split at moved
    · cases moved
    · unfold openNext at moved
      split at moved
      · cases moved
        rfl
      · cases moved
        simp [warningsOf, Event.tellsOfFailure, Event.debug]

theorem Walker.warnings_next (walker : Walker) : warningsOf walker.next.2.2 = [] := by
  fun_induction next walker with
  | case1 => rfl
  | case2 walker after events moved file last more result ih =>
      rw [result] at ih
      rw [warningsOf_append, warnings_step moved, ih]
      rfl
  | case3 => rfl

theorem LanguageShelf.warnings_ofPath (shelf : LanguageShelf) (path : Path) :
    warningsOf (shelf.ofPath path).2.2 = [] := by
  have silent : warningsOf shelf.open?.2.2 = [] := by
    unfold open?
    split
    · rfl
    · split
      · rfl
      · simp [warningsOf, Event.tellsOfFailure, Registry.built, Event.debug]
  by_cases bare : path.suffix = ""
  · simp [ofPath, bare, warningsOf]
  · by_cases empty : normalExtension path.suffix = ""
    · simp [ofPath, ofExtension, bare, empty, warningsOf]
    · cases opened : shelf.open? with
      | mk given rest =>
          rw [opened] at silent
          cases given <;> simpa [ofPath, ofExtension, bare, empty, opened] using silent

theorem warnings_chunkFile {path : Path} {bytes : Except ReadFault (List UInt8)} {language : String}
    {split : List UInt8 → Except Failure (List Chunk)} {records : List Record} {events : List Event}
    (chunked : chunkFile path bytes language split = .ok (records, events)) :
    warningsOf events = [] := by
  unfold chunkFile at chunked
  split at chunked
  · cases chunked
  · split at chunked
    · cases chunked
      simp [warningsOf, Event.tellsOfFailure, SourceFile.chunked, Event.debug]
    · split at chunked <;> cases chunked

/-! ## What is counted of a file -/

/-- The counts behind one more file. -/
def StreamStats.counting (stats : StreamStats) : FileOutcome → StreamStats
  | .unsupported =>
    { stats with
      filesSeen := stats.filesSeen + 1, filesUnsupported := stats.filesUnsupported + 1 }
  | .chunked _ =>
    { stats with filesSeen := stats.filesSeen + 1, filesChunked := stats.filesChunked + 1 }
  | .unchunkable _ =>
    { stats with filesSeen := stats.filesSeen + 1, filesFailed := stats.filesFailed + 1 }
  | .failed _ => { stats with filesSeen := stats.filesSeen + 1 }

namespace FileOutcome

def isUnsupported : FileOutcome → Bool
  | .unsupported => true
  | _ => false

def isChunked : FileOutcome → Bool
  | .chunked _ => true
  | _ => false

/-- With the registry at hand each file is counted in one way besides being seen. -/
theorem length_eq_of_ok (registry : Registry) (files : List FoundFile) :
    files.length = (files.countP fun file => (of (.ok registry) file).isChunked) +
      (files.countP fun file => (of (.ok registry) file).isUnsupported) +
      (files.filterMap fun file => (of (.ok registry) file).skipped?).length := by
  induction files with
  | nil => rfl
  | cons file rest ih =>
      rw [List.length_cons, ih, List.countP_cons, List.countP_cons, List.filterMap_cons]
      rcases cases_of_ok registry file with same | ⟨_, same⟩ | ⟨_, same⟩ <;>
        simp only [same, isChunked, isUnsupported, skipped?, if_true, if_false, Bool.false_eq_true,
          List.length_cons] <;>
        omega

theorem paths_of_skipped (registry : Registry) (files : List FoundFile) :
    (files.filterMap fun file => (of (.ok registry) file).skipped?).map SkippedFile.path =
      (files.filter fun file => (of (.ok registry) file).skipped?.isSome).map FoundFile.path := by
  induction files with
  | nil => rfl
  | cons file rest ih =>
      rw [List.filterMap_cons, List.filter_cons]
      rcases cases_of_ok registry file with same | ⟨_, same⟩ | ⟨_, same⟩ <;> rw [same]
      · exact ih
      · exact ih
      · exact congrArg (file.path :: ·) ih

end FileOutcome

namespace Stream

/-- The files among these that cannot be chunked, with their reasons. -/
def failuresAmong (stream : Stream) (files : List FoundFile) : List SkippedFile :=
  files.filterMap fun file => (stream.outcome file).skipped?

theorem counted_process (stream : Stream) (file : FoundFile) :
    (stream.process file).2.1.stats = stream.stats.counting (stream.outcome file) ∧
      warningsOf (stream.process file).2.2 =
        (stream.outcome file).skipped?.toList.map failedEvent := by
  obtain ⟨answer, _⟩ := stream.shelf.ofPath_spec file.path
  have silent := stream.shelf.warnings_ofPath file.path
  have outcome : stream.outcome file = .ofAnswer file (stream.shelf.ofPath file.path).1 :=
    congrArg (FileOutcome.ofAnswer file) answer.symm
  cases asked : stream.shelf.ofPath file.path with
  | mk given rest =>
      obtain ⟨shelf, events⟩ := rest
      rw [asked] at outcome silent
      simp only [process, asked, outcome]
      rcases given with failure | _ | language
      · exact ⟨rfl, silent⟩
      · exact ⟨rfl, silent⟩
      · rcases FileOutcome.ofLanguage_cases file language with
          ⟨records, more, chunked, same⟩ | ⟨reason, fails, same⟩
        · have quiet : warningsOf more = [] := warnings_chunkFile chunked
          simp [chunk, chunked, same, FileOutcome.ofAnswer, StreamStats.counting,
            FileOutcome.skipped?, silent, quiet]
        · have loud : warningsOf [failedEvent ⟨file.path, reason⟩] =
              [failedEvent ⟨file.path, reason⟩] := by
            simp [warningsOf, Event.tellsOfFailure, failedEvent, Event.warning]
          simp [chunk, fails, report_eq, same, FileOutcome.ofAnswer, StreamStats.counting,
            FileOutcome.skipped?, silent, loud]

end Stream

end SourceIndex
