import SourceIndex.Proofs.Stream.Counting
import SourceIndex.Proofs.Stream.Demands

/-! # The accounts of a stream

A stream counts the files it takes from the walk by what becomes of them, warns of each that cannot be
chunked, and counts the records it hands out.  Each pull adds to the counts just what it adds to the
files taken, the warnings and the records (`Stream.Accounts`), also when the callback gives up in the
middle of it; so the counts are right at any time (`demands_accounted`). -/
set_option autoImplicit false
namespace SourceIndex

namespace Stream

/-! ## What a pull adds -/

theorem Handles.failuresAmong {before after : Stream} {files : List FoundFile}
    (handles : Handles before files after) : after.failuresAmong = before.failuresAmong := by
  funext more
  simp only [Stream.failuresAmong, handles.outcome]

/-- From one state of a stream to a later one just these files and records are added to the counts,
and the warnings on the way are those of the files that cannot be chunked. -/
structure Counts (before : Stream) (taken : List FoundFile) (given : List Record)
    (events : List Event) (after : Stream) : Prop where
  handles : Handles before taken after
  seen : after.stats.filesSeen = before.stats.filesSeen + taken.length
  chunked : after.stats.filesChunked =
    before.stats.filesChunked + taken.countP fun file => (before.outcome file).isChunked
  unsupported : after.stats.filesUnsupported =
    before.stats.filesUnsupported + taken.countP fun file => (before.outcome file).isUnsupported
  failed : after.stats.filesFailed =
    before.stats.filesFailed + (before.failuresAmong taken).length
  emitted : after.stats.chunksEmitted = before.stats.chunksEmitted + given.length
  warnings : warningsOf events = (before.failuresAmong taken).map failedEvent

namespace Counts

theorem still (stream : Stream) {events : List Event} (silent : warningsOf events = []) :
    Counts stream [] [] events stream :=
  ⟨.refl stream, rfl, rfl, rfl, rfl, rfl, silent⟩

theorem trans {first second third : Stream} {taken more : List FoundFile}
    {given others : List Record} {events later : List Event}
    (front : Counts first taken given events second) (back : Counts second more others later third) :
    Counts first (taken ++ more) (given ++ others) (events ++ later) third where
  handles := front.handles.trans back.handles
  seen := by rw [back.seen, front.seen, List.length_append, Nat.add_assoc]
  chunked := by
    rw [back.chunked, front.chunked, front.handles.outcome, List.countP_append, Nat.add_assoc]
  unsupported := by
    rw [back.unsupported, front.unsupported, front.handles.outcome, List.countP_append,
      Nat.add_assoc]
  failed := by
    rw [back.failed, front.failed, front.handles.failuresAmong, Nat.add_assoc,
      ← List.length_append, failuresAmong, failuresAmong, ← List.filterMap_append]
    rfl
  emitted := by rw [back.emitted, front.emitted, List.length_append, Nat.add_assoc]
  warnings := by
    rw [warningsOf_append, front.warnings, back.warnings, front.handles.failuresAmong,
      ← List.map_append, failuresAmong, failuresAmong, ← List.filterMap_append]
    rfl

end Counts

theorem counts_process {stream after : Stream} {walker : Walker} {file : FoundFile}
    {result : Except Failure (List Record)} {events : List Event}
    (processed : process { stream with walker } file = (result, after, events))
    (records : List Record) :
    Counts stream [file] [] events { after with buffered := records } := by
  have handles := (processed_of_eq processed).handles
  obtain ⟨stats, warnings⟩ := counted_process { stream with walker } file
  rw [processed] at stats warnings
  -- neither the walk nor the buffer has a part in what becomes of a file
  have counted : after.stats = stream.stats.counting (stream.outcome file) := stats
  have warned : warningsOf events = (stream.outcome file).skipped?.toList.map failedEvent := warnings
  refine ⟨handles.aside, ?_, ?_, ?_, ?_, ?_, ?_⟩
  all_goals
    simp only [counted, warned, failuresAmong, List.filterMap_cons, List.filterMap_nil,
      List.countP_singleton]
    cases stream.outcome file <;> rfl

theorem counts_next (stream : Stream) :
    ∃ taken, Walker.Moves stream.walker taken stream.next.2.1.walker ∧
      Counts stream taken stream.next.1.record?.toList stream.next.2.2 stream.next.2.1 := by
  fun_induction next stream with
  | case1 stream record rest buffered =>
      exact ⟨[], .refl _, (Handles.refl stream).aside, rfl, rfl, rfl, rfl, rfl, rfl⟩
  | case2 stream empty walker events walked =>
      have moves := stream.walker.moves_next
      have silent := stream.walker.warnings_next
      rw [walked] at moves silent
      exact ⟨[], moves, (Handles.refl stream).aside, rfl, rfl, rfl, rfl, rfl, silent⟩
  | case3 stream empty file walker events walked failure after more processed =>
      have moves := stream.walker.moves_next
      have silent := stream.walker.warnings_next
      rw [walked] at moves silent
      refine ⟨[file], ?_, (Counts.still stream silent).trans (counts_process processed after.buffered)⟩
      rw [(processed_of_eq processed).walker]
      exact moves
  | case4 stream empty file walker events walked records after more processed pull last rest result
      ih =>
      have moves := stream.walker.moves_next
      have silent := stream.walker.warnings_next
      rw [walked] at moves silent
      rw [result] at ih
      obtain ⟨taken, further, counts⟩ := ih
      have onward : Walker.Moves after.walker taken last.walker := further
      rw [(processed_of_eq processed).walker] at onward
      refine ⟨file :: taken, moves.trans onward, ?_⟩
      exact ((Counts.still stream silent).trans (counts_process processed records)).trans counts

/-- The records that the buffer can hold: those of the file taken last, and if none was taken those
that were there before. -/
def latest (before : Stream) (taken : List FoundFile) : List Record :=
  (taken.getLast?.map before.recordsOf).getD before.buffered

/-- A pull leaves in the buffer what is left of the file taken last. -/
theorem buffered_next {stream after : Stream} {taken : List FoundFile} {pull : Pull}
    (passes : Passes stream taken pull.record?.toList after) (pulled : Pulled stream taken after pull) :
    after.buffered <:+ stream.latest taken := by
  cases pull with
  | record record =>
      have records := passes.records
      rcases pulled with ⟨_, rfl⟩ | ⟨empty, front, file, rfl, none⟩
      · rw [List.flatMap_nil, List.append_nil] at records
        exact ⟨[record], records.symm⟩
      · rw [empty, List.flatMap_append, none, List.flatMap_singleton] at records
        simp only [latest, List.getLast?_concat, Option.map_some, Option.getD_some]
        exact ⟨[record], records.symm⟩
  | exhausted =>
      rw [pulled.2]
      exact List.nil_suffix
  | failed failure =>
      rw [pulled.1]
      exact List.nil_suffix

/-- What is known from one state of a stream to a later one while it is not given up. -/
structure Accounts (before : Stream) (taken : List FoundFile) (given : List Record)
    (events : List Event) (after : Stream) : Prop where
  passes : Passes before taken given after
  counts : Counts before taken given events after
  buffered : after.buffered <:+ before.latest taken

namespace Accounts

theorem refl (stream : Stream) : Accounts stream [] [] [] stream :=
  ⟨.refl stream, .still stream rfl, List.suffix_refl _⟩

theorem trans {first second third : Stream} {taken more : List FoundFile}
    {given others : List Record} {events later : List Event}
    (front : Accounts first taken given events second)
    (back : Accounts second more others later third) :
    Accounts first (taken ++ more) (given ++ others) (events ++ later) third where
  passes := front.passes.trans back.passes
  counts := front.counts.trans back.counts
  buffered := by
    have held := back.buffered
    simp only [latest, List.getLast?_append] at held ⊢
    cases last : more.getLast? with
    | none =>
        rw [last] at held
        exact held.trans front.buffered
    | some file =>
        rw [last, front.counts.handles.recordsOf] at held
        exact held

variable {before after : Stream} {taken : List FoundFile} {given : List Record} {events : List Event}

/-- What was handed out and what the buffer holds are all records of the files taken. -/
theorem emitted (accounts : Accounts before taken given events after)
    (empty : before.buffered = []) :
    given.length + after.buffered.length = (taken.flatMap before.recordsOf).length := by
  have records := accounts.passes.records
  rw [empty, List.nil_append] at records
  rw [records, List.length_append]

/-- The buffer holds records of one file, the last that was taken. -/
theorem buffered_of_last (accounts : Accounts before taken given events after)
    (empty : before.buffered = []) :
    after.buffered = [] ∨ ∃ front file, taken = front ++ [file] ∧
      after.buffered <:+ before.recordsOf file := by
  have held := accounts.buffered
  rw [latest] at held
  rcases List.eq_nil_or_concat taken with none | ⟨front, file, last⟩
  · rw [none, List.getLast?_nil, Option.map_none, Option.getD_none, empty] at held
    exact Or.inl (List.suffix_nil.mp held)
  · rw [last, List.concat_eq_append, List.getLast?_concat] at held
    exact Or.inr ⟨front, file, last.trans List.concat_eq_append, held⟩

end Accounts

theorem accounts_next (stream : Stream) :
    ∃ taken, Accounts stream taken stream.next.1.record?.toList stream.next.2.2
      stream.next.2.1 := by
  obtain ⟨taken, passes, pulled⟩ := stream.passes_next
  obtain ⟨other, moves, counts⟩ := stream.counts_next
  -- the files that a walk has given tell themselves by what it still gives
  have same : other = taken :=
    List.append_cancel_right (moves.files.symm.trans passes.walker.files)
  exact ⟨taken, passes, same ▸ counts, buffered_next passes pulled⟩

theorem accounts_drain (stream : Stream) :
    ∃ taken, Accounts stream taken stream.drain.1 stream.drain.2.2.2 stream.drain.2.2.1 := by
  fun_induction drain stream with
  | case1 stream last events pulled =>
      obtain ⟨taken, accounts⟩ := stream.accounts_next
      rw [pulled] at accounts
      exact ⟨taken, accounts⟩
  | case2 stream failure last events pulled =>
      obtain ⟨taken, accounts⟩ := stream.accounts_next
      rw [pulled] at accounts
      exact ⟨taken, accounts⟩
  | case3 stream record after events pulled records failure last more result ih =>
      obtain ⟨taken, accounts⟩ := stream.accounts_next
      rw [pulled] at accounts
      rw [result] at ih
      obtain ⟨others, rest⟩ := ih
      exact ⟨taken ++ others, accounts.trans rest⟩

theorem accounts_pull (stream : Stream) (call : WalkCall) :
    let given := stream.serve (.pull call)
    ∃ taken, Accounts stream taken given.records given.events given.stream := by
  cases call with
  | next => exact stream.accounts_next
  | drain => exact stream.accounts_drain

/-- Giving a stream up counts nothing. -/
theorem counts_close (stream : Stream) : Counts stream [] [] [] stream.close :=
  ⟨(Handles.refl stream).aside, rfl, rfl, rfl, rfl, rfl, rfl⟩

/-! ## What demands add -/

/-- The files that are counted are those that the walk gives before the stream is given up. -/
theorem counts_serveAll (demands : List Demand) : ∀ stream : Stream,
    let given := stream.serveAll demands
    let open_ := stream.serveAll (demands.takeWhile (· ≠ .close))
    ∃ taken, Counts stream taken given.records given.events given.stream ∧
      stream.walker.filesLeft = taken ++ open_.stream.walker.filesLeft ∧
      (.close ∉ demands → Accounts stream taken given.records given.events given.stream) := by
  induction demands with
  | nil =>
      intro stream
      exact ⟨[], .still stream rfl, rfl, fun _ => .refl stream⟩
  | cons demand rest ih =>
      intro stream
      cases demand with
      | pull call =>
          obtain ⟨taken, first⟩ := stream.accounts_pull call
          obtain ⟨more, counts, left, whole⟩ := ih (stream.serve (.pull call)).stream
          refine ⟨taken ++ more, first.counts.trans counts, ?_, ?_⟩
          · rw [first.passes.walker.files, left, List.append_assoc,
              List.takeWhile_cons_of_pos (by simp)]
            rfl
          · intro kept
            exact first.trans (whole fun later => kept (List.mem_cons_of_mem _ later))
      | close =>
          obtain ⟨more, counts, left, _⟩ := ih stream.close
          have nothing : stream.close.walker.filesLeft = [] :=
            Walker.filesLeft_of_folders stream.ended_close.1
          rw [nothing] at left
          have none : more = [] := (List.append_eq_nil_iff.mp left.symm).1
          rw [none] at counts
          refine ⟨[], stream.counts_close.trans counts, ?_, ?_⟩
          · rw [List.takeWhile_cons_of_neg (by simp)]
            rfl
          · exact fun kept => absurd List.mem_cons_self kept

end Stream

/-- The counts of a stream are right at any time, whatever was asked of it and however often the callback
gave up.  The files seen are those taken from the walk, and each of them was chunked, unsupported or
unchunkable.  Of the unchunkable ones, in the order of the walk, the log warns and the callback is told,
once each.  Until the stream is given up, the records handed out and those in the buffer, which are of one
file, are all records of the files taken; and behind its end the walk's count has been taken over. -/
theorem demands_accounted (root : Folder) (patterns : List String) (shelf : LanguageShelf)
    (onSkip : Option SkipCallback) {registry : Registry} (built : shelf.opened = .ok registry)
    (demands : List Demand) :
    let ignored := Glob.anyAccepts patterns
    let found := (Walker.start root ignored).drain.1
    let outcome := FileOutcome.of (.ok registry)
    let stream := Stream.start root ignored shelf onSkip
    let given := stream.serveAll demands
    let beforeClose := stream.serveAll (demands.takeWhile (· ≠ .close))
    let stats := given.stream.stats
    ∃ taken failures,
      found = taken ++ beforeClose.stream.walker.drain.1 ∧
      failures = taken.filterMap (fun file => (outcome file).skipped?) ∧
      stats.filesSeen = taken.length ∧
      stats.filesSeen = stats.filesChunked + stats.filesUnsupported + stats.filesFailed ∧
      (stats.filesChunked = taken.countP fun file => (outcome file).isChunked) ∧
      (stats.filesUnsupported = taken.countP fun file => (outcome file).isUnsupported) ∧
      stats.filesFailed = failures.length ∧
      warningsOf given.events = failures.map Stream.failedEvent ∧
      (onSkip.isSome = true → given.stream.reported = failures) ∧
      failures.map SkippedFile.path =
        (taken.filter fun file => (outcome file).skipped?.isSome).map FoundFile.path ∧
      stats.chunksEmitted = given.records.length ∧
      (.close ∉ demands →
        stats.chunksEmitted + given.stream.buffered.length =
          (taken.flatMap fun file => (outcome file).records).length ∧
        (given.stream.buffered = [] ∨ ∃ front file, taken = front ++ [file] ∧
          given.stream.buffered <:+ (outcome file).records)) ∧
      (given.ended = true →
        given.stream.walker.drain.1 = [] ∧
        stats.directoriesSkipped = given.stream.walker.skipped) := by
  intro ignored found outcome stream given beforeClose stats
  have own : stream.outcome = outcome := congrArg FileOutcome.of built
  obtain ⟨taken, counts, left, whole⟩ := stream.counts_serveAll demands
  obtain ⟨handles, seen, chunked, unsupported, failed, emitted, warnings⟩ := counts
  simp only [Stream.failuresAmong, own] at chunked unsupported failed warnings
  have start : stream.stats = {} := rfl
  simp only [start, Nat.zero_add] at seen chunked unsupported failed emitted
  refine ⟨taken, _, ?_, rfl, seen, ?_, chunked, unsupported, failed, warnings, ?_,
    FileOutcome.paths_of_skipped registry taken, emitted, ?_, ?_⟩
  · rw [Walker.drain_eq_filesLeft]
    exact (Walker.drain_eq_filesLeft _).trans left
  · calc stats.filesSeen
        = taken.length := seen
      _ = _ := FileOutcome.length_eq_of_ok registry taken
      _ = stats.filesChunked + stats.filesUnsupported + stats.filesFailed := by
          rw [chunked, unsupported, failed]
  · intro told
    have onSkip : stream.onSkip.isSome = true := told
    rw [handles.reported, if_pos onSkip, own]
    rfl
  · intro kept
    have accounts := whole kept
    have recordsOf : stream.recordsOf = fun file => (outcome file).records := by
      funext file
      exact congrArg FileOutcome.records (congrFun own file)
    have all := accounts.emitted rfl
    have buffered := accounts.buffered_of_last rfl
    rw [recordsOf, ← emitted] at all
    rw [recordsOf] at buffered
    exact ⟨all, buffered⟩
  · intro told
    obtain ⟨ended, counted⟩ := Stream.settled_serveAll demands (Or.inl told)
    refine ⟨?_, counted⟩
    rw [Walker.drain_eq_filesLeft]
    exact Walker.filesLeft_of_folders ended.1

theorem halfReadable_accounted :
    ∃ registry, freshShelf.opened = .ok registry ∧
      let ignored := Glob.anyAccepts ["*.tmp"]
      let found := (Walker.start halfReadable ignored).drain.1
      let outcome := FileOutcome.of (.ok registry)
      let stream := Stream.start halfReadable ignored freshShelf (some fun call => call = 0)
      let given := stream.serveAll [.pull .next, .pull .next, .close, .pull .next]
      let beforeClose := stream.serveAll [.pull .next, .pull .next]
      let stats := given.stream.stats
      ∃ taken failures,
        found = taken ++ beforeClose.stream.walker.drain.1 ∧
        failures = taken.filterMap (fun file => (outcome file).skipped?) ∧
        stats.filesSeen = taken.length ∧
        stats.filesSeen = stats.filesChunked + stats.filesUnsupported + stats.filesFailed ∧
        (stats.filesChunked = taken.countP fun file => (outcome file).isChunked) ∧
        (stats.filesUnsupported = taken.countP fun file => (outcome file).isUnsupported) ∧
        stats.filesFailed = failures.length ∧
        warningsOf given.events = failures.map Stream.failedEvent ∧
        given.stream.reported = failures ∧
        failures.map SkippedFile.path =
          (taken.filter fun file => (outcome file).skipped?.isSome).map FoundFile.path ∧
        stats.chunksEmitted = given.records.length ∧
        given.stream.walker.drain.1 = [] ∧
        stats.directoriesSkipped = given.stream.walker.skipped := by
  obtain ⟨taken, failures, found, skipped, seen, kinds, chunked, unsupported, failed, warnings,
    reported, paths, emitted, _, behind⟩ :=
    demands_accounted halfReadable ["*.tmp"] freshShelf (some fun call => call = 0) rfl
      [.pull .next, .pull .next, .close, .pull .next]
  have beforeClose : ([.pull .next, .pull .next, .close, .pull .next] : List Demand).takeWhile
      (· ≠ .close) = [.pull .next, .pull .next] := by decide
  rw [beforeClose] at found
  exact ⟨_, rfl, taken, failures, found, skipped, seen, kinds, chunked, unsupported, failed, warnings,
    reported rfl, paths, emitted, behind (by simp [Stream.serveAll, Stream.serve])⟩

end SourceIndex
