import SourceIndex.Proofs.Dataset.Writing
import SourceIndex.Proofs.Stream.Demands

/-! # No listing stays open

Who walks through a tree, pulls from a stream, extracts a table or writes a dataset never holds more
than one listing open, and none behind the end (`listings_balanced`).  Failures do not matter: a
listing that breaks off, a callback that gives up and a registry that cannot be built leave the walk
as tidy as they found it. -/
set_option autoImplicit false
namespace SourceIndex

/-- A stream whose dataset is written has been extracted from, unless the output cannot be opened. -/
theorem FileStore.writeChunks_last (files : FileStore) (stream : Stream) (output : Path)
    (faults : SinkFaults) :
    (files.writeChunks stream output faults).2.2.1 = stream ∨
      (files.writeChunks stream output faults).2.2.1 = stream.extract.2.1 := by
  cases created : files.create output with
  | error cause =>
      rw [writeChunks_of_create_error created]
      exact Or.inl rfl
  | ok opening =>
      refine Or.inr ?_
      simp only [writeChunks, created]
      split <;> rfl

namespace Stream

variable {stream : Stream}

theorem tidy_serveAll (tidy : stream.walker.Tidy) (demands : List Demand) :
    (stream.serveAll demands).stream.walker.Tidy :=
  walker_serveAll Walker.tidy_next (fun _ => Walker.tidy_close) demands tidy

theorem tidy_extract (tidy : stream.walker.Tidy) : stream.extract.2.1.walker.Tidy := by
  rw [extract_last]
  exact Walker.tidy_close (walker_drain Walker.tidy_next stream tidy)

theorem folders_extract (stream : Stream) : stream.extract.2.1.walker.folders = [] := by
  rw [extract_last]
  exact stream.drain.2.2.1.ended_close.1

end Stream

/-- In a tree whose listings can be released, each listing that was opened is released once, but for
one that is open, at any time on the way.  As soon as a walk or a stream has told that nothing is left,
or was given up, all of them are released, and so they are behind an extraction and behind writing a
dataset, whatever these give. -/
theorem listings_balanced (root : Folder) (releasable : root.Releasable) (patterns : List String)
    (shelf : LanguageShelf) (onSkip : Option SkipCallback) :
    let ignored := Glob.anyAccepts patterns
    let walker := Walker.start root ignored
    let stream := Stream.start root ignored shelf onSkip
    let extracted := stream.extract.2.1.walker
    (∀ demands,
      let (ended, last) := walker.serveAll demands
      last.Balanced ∧ (ended = true → last.closed = last.opened)) ∧
    (∀ demands,
      let given := stream.serveAll demands
      let last := given.stream.walker
      last.Balanced ∧ (given.ended = true → last.closed = last.opened)) ∧
    (extracted.Balanced ∧ extracted.closed = extracted.opened) ∧
    ∀ (files : FileStore) (output : Path) (faults : SinkFaults),
      let last := (files.writeChunks stream output faults).2.2.1.walker
      last.Balanced ∧ last.closed = last.opened := by
  intro ignored walker stream extracted
  have start : walker.Tidy := Walker.tidy_start releasable ignored
  have tidy : extracted.Tidy := Stream.tidy_extract start
  have balanced := tidy.balanced
  have released := balanced.closed_of_folders stream.folders_extract
  refine ⟨?_, ?_, ⟨balanced, released⟩, ?_⟩
  · intro demands
    have balanced := (Walker.tidy_serveAll demands start).balanced
    exact ⟨balanced, fun ended =>
      balanced.closed_of_folders (Walker.folders_serveAll demands (Or.inl ended))⟩
  · intro demands
    have tidy : (stream.serveAll demands).stream.walker.Tidy := Stream.tidy_serveAll start demands
    have balanced := tidy.balanced
    exact ⟨balanced, fun ended =>
      balanced.closed_of_folders (Stream.settled_serveAll demands (Or.inl ended)).ended.1⟩
  · intro files output faults
    rcases files.writeChunks_last stream output faults with untouched | behind
    · rw [untouched]
      exact ⟨start.balanced, rfl⟩
    · rw [behind]
      exact ⟨balanced, released⟩

theorem brokenTree_releasable : brokenTree.Releasable := by
  refine .intro rfl ?_
  intro name conduct entries member
  simp only [brokenTree, List.mem_cons, Entry.directory.injEq, reduceCtorEq, false_or,
    List.not_mem_nil, or_false] at member
  rcases member with ⟨_, rfl, rfl⟩ | ⟨_, rfl, rfl⟩
  · exact .intro rfl (by simp)
  · exact .intro rfl (by simp)

theorem brokenTree_balanced :
    brokenTree.Releasable ∧
    let ignored := Glob.anyAccepts ["*.tmp"]
    let walker := Walker.start brokenTree ignored
    let stream := Stream.start brokenTree ignored freshShelf (some fun _ => true)
    let extracted := stream.extract.2.1.walker
    (∀ demands,
      let (ended, last) := walker.serveAll demands
      last.Balanced ∧ (ended = true → last.closed = last.opened)) ∧
    (∀ demands,
      let given := stream.serveAll demands
      let last := given.stream.walker
      last.Balanced ∧ (given.ended = true → last.closed = last.opened)) ∧
    (extracted.Balanced ∧ extracted.closed = extracted.opened) ∧
    ∀ (files : FileStore) (output : Path) (faults : SinkFaults),
      let last := (files.writeChunks stream output faults).2.2.1.walker
      last.Balanced ∧ last.closed = last.opened :=
  ⟨brokenTree_releasable,
    listings_balanced brokenTree brokenTree_releasable ["*.tmp"] freshShelf (some fun _ => true)⟩

end SourceIndex
