import SourceIndex.Language
import SourceIndex.Walk

/-! # The records of a directory tree, one at a time

A stream walks through a directory tree and hands out the records of its files.  It reads a
file only when the records of the one before are used up.  A file that cannot be chunked is
told to a callback and left out; when the callback gives up, so does the pull, but not the
stream. -/
set_option autoImplicit false
namespace SourceIndex

structure SkippedFile where
  path : Path
  reason : String
  deriving DecidableEq, Repr

structure StreamStats where
  filesSeen : Nat := 0
  filesChunked : Nat := 0
  filesUnsupported : Nat := 0
  filesFailed : Nat := 0
  directoriesSkipped : Nat := 0
  chunksEmitted : Nat := 0
  deriving DecidableEq, Repr, Inhabited

/-- A callback for skipped files: whether it gives up when it is called for the n-th time,
counted from zero.  It gives up by a failure of its own; one that raises the signal by which an
iteration ends is left out. -/
abbrev SkipCallback := Nat → Bool

structure Stream where
  walker : Walker
  shelf : LanguageShelf
  onSkip : Option SkipCallback
  buffered : List Record := []
  stats : StreamStats := {}
  reported : List SkippedFile := []
  reads : List Path := []

inductive Pull where
  | record (record : Record)
  | exhausted
  | failed (failure : Failure)
  deriving DecidableEq, Repr

namespace Stream

def start (root : Folder) (ignored : String → Bool) (shelf : LanguageShelf)
    (onSkip : Option SkipCallback) : Stream :=
  ⟨Walker.start root ignored, shelf, onSkip, [], {}, [], []⟩

def settle (stream : Stream) : Stream :=
  { stream with stats := { stream.stats with directoriesSkipped := stream.walker.skipped } }

def close (stream : Stream) : Stream :=
  settle { stream with buffered := [], walker := stream.walker.close }

def failedEvent (skipped : SkippedFile) : Event :=
  .warning "chunk_file_failed"
    [("file", .text skipped.path.text), ("error", .text skipped.reason)]

def report (stream : Stream) (skipped : SkippedFile) : Except Failure (List Record) × Stream :=
  match stream.onSkip with
  | none => (.ok [], stream)
  | some givesUp =>
    let after := { stream with reported := stream.reported ++ [skipped] }
    if givesUp stream.reported.length then (.error .skipCallback, after) else (.ok [], after)

def chunk (stream : Stream) (file : FoundFile) (language : Language) :
    Except Failure (List Record) × Stream × List Event :=
  let read := { stream with reads := stream.reads ++ [file.path] }
  match chunkFile file.path file.content.bytes language.name
      fun bytes => language.splitter.split bytes file.content.tree with
  | .ok (records, events) =>
    (.ok records,
      { read with stats := { read.stats with filesChunked := read.stats.filesChunked + 1 } },
      events)
  | .error (.unchunkable path reason) =>
    -- the file is counted before the callback is told, which may give up
    let skipped : SkippedFile := ⟨path, reason⟩
    let counted :=
      { read with stats := { read.stats with filesFailed := read.stats.filesFailed + 1 } }
    let (result, after) := counted.report skipped
    (result, after, [failedEvent skipped])
  | .error failure => (.error failure, read, [])

def process (stream : Stream) (file : FoundFile) :
    Except Failure (List Record) × Stream × List Event :=
  let seen :=
    { stream with stats := { stream.stats with filesSeen := stream.stats.filesSeen + 1 } }
  match seen.shelf.ofPath file.path with
  | (.error failure, shelf, events) => (.error failure, { seen with shelf }, events)
  | (.ok none, shelf, events) =>
    (.ok [],
      { seen with
        shelf, stats := { seen.stats with filesUnsupported := seen.stats.filesUnsupported + 1 } },
      events)
  | (.ok (some language), shelf, events) =>
    let (result, after, more) := chunk { seen with shelf } file language
    (result, after, events ++ more)

@[simp] theorem walker_report (stream : Stream) (skipped : SkippedFile) :
    (stream.report skipped).2.walker = stream.walker := by
  unfold report
  split
  · rfl
  · dsimp only
    split <;> rfl

@[simp] theorem walker_chunk (stream : Stream) (file : FoundFile) (language : Language) :
    (stream.chunk file language).2.1.walker = stream.walker := by
  unfold chunk
  dsimp only
  split
  · rfl
  · simp
  · rfl

/-- Chunking a file does not move the walk. -/
@[simp] theorem walker_process (stream : Stream) (file : FoundFile) :
    (stream.process file).2.1.walker = stream.walker := by
  unfold process
  dsimp only
  split
  · rfl
  · rfl
  · simp

def next (stream : Stream) : Pull × Stream × List Event :=
  match stream.buffered with
  | record :: rest =>
    (.record record,
      { stream with
        buffered := rest
        stats := { stream.stats with chunksEmitted := stream.stats.chunksEmitted + 1 } },
      [])
  | [] =>
    match _walked : stream.walker.next with
    | (none, walker, events) => (.exhausted, settle { stream with walker }, events)
    | (some file, walker, events) =>
      match _processed : process { stream with walker } file with
      | (.error failure, after, more) => (.failed failure, after, events ++ more)
      | (.ok records, after, more) =>
        let (pull, last, rest) := next { after with buffered := records }
        (pull, last, events ++ more ++ rest)
termination_by stream.walker.weight
decreasing_by
  have same := walker_process { stream with walker } file
  have less := @Walker.weight_of_next stream.walker file (by rw [_walked])
  rw [_walked] at less
  rw [_processed] at same
  exact Nat.lt_of_le_of_lt (Nat.le_of_eq (congrArg Walker.weight same)) less

/-- A pull that gives a record either takes it from the buffer or moves the walk. -/
theorem order_of_next {stream : Stream} {record : Record} :
    stream.next.1 = .record record →
      Prod.Lex (· < ·) (· < ·)
        (stream.next.2.1.walker.weight, stream.next.2.1.buffered.length)
        (stream.walker.weight, stream.buffered.length) := by
  fun_induction next stream with
  | case1 stream record rest buffered =>
    exact fun _ => Prod.Lex.right _ (by simp [buffered])
  | case2 => exact fun impossible => by cases impossible
  | case3 => exact fun impossible => by cases impossible
  | case4 stream empty file walker events walked records after more processed pull last rest
      result ih =>
    intro pulled
    rw [result] at ih
    have same := walker_process { stream with walker } file
    have less := @Walker.weight_of_next stream.walker file (by rw [walked])
    rw [walked] at less
    rw [processed] at same
    have moved : after.walker.weight < stream.walker.weight :=
      Nat.lt_of_le_of_lt (Nat.le_of_eq (congrArg Walker.weight same)) less
    refine Prod.Lex.left _ _ ?_
    rcases Prod.lex_def.1 (ih pulled) with below | ⟨level, _⟩
    · exact Nat.lt_trans below moved
    · exact Nat.lt_of_le_of_lt (Nat.le_of_eq level) moved

/-- Pull all the records that are left, up to the first failure. -/
def drain (stream : Stream) : List Record × Option Failure × Stream × List Event :=
  match _pulled : stream.next with
  | (.exhausted, last, events) => ([], none, last, events)
  | (.failed failure, last, events) => ([], some failure, last, events)
  | (.record record, after, events) =>
    let (records, failure, last, more) := after.drain
    (record :: records, failure, last, events ++ more)
termination_by (stream.walker.weight, stream.buffered.length)
decreasing_by
  have less := @order_of_next stream record (by rw [_pulled])
  rw [_pulled] at less
  exact less

end Stream

end SourceIndex
