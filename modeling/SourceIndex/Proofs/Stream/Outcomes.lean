import SourceIndex.Stream

/-! # What a stream makes of a file

What becomes of a file is settled by the file and by what opening the registry gives
(`FileOutcome.of`), however far the stream has come.  Processing a file reads it if its language is
known, tells the callback of it if it cannot be chunked, and gives its records otherwise
(`processed_process`). -/
set_option autoImplicit false
namespace SourceIndex

/-- The language of a path by the suffix of its last name. -/
def Registry.ofPath (registry : Registry) (path : Path) : Option Language :=
  if path.suffix = "" ∨ normalExtension path.suffix = "" then none
  else registry.ofExtension (normalExtension path.suffix)

/-- The language of a path, by what opening the registry gives.  A path without a suffix needs no
registry. -/
def languageOf (opened : Except Failure Registry) (path : Path) :
    Except Failure (Option Language) :=
  if path.suffix = "" ∨ normalExtension path.suffix = "" then .ok none
  else opened.map fun registry => registry.ofPath path

theorem languageOf_ok (registry : Registry) (path : Path) :
    languageOf (.ok registry) path = .ok (registry.ofPath path) := by
  unfold languageOf
  split
  · rename_i bare
    rw [Registry.ofPath, if_pos bare]
  · rfl

namespace LanguageShelf

def opened (shelf : LanguageShelf) : Except Failure Registry := shelf.open?.1

theorem opened_open? (shelf : LanguageShelf) : shelf.open?.2.1.opened = shelf.opened := by
  unfold opened
  cases kept : shelf.registry with
  | some registry => simp [open?, kept]
  | none =>
      cases built : Registry.build shelf.grammars shelf.budget with
      | error failure => simp [open?, kept, built]
      | ok registry => simp [open?, kept, built]

/-- A shelf is asked for a language with the same answer each time. -/
theorem ofPath_spec (shelf : LanguageShelf) (path : Path) :
    (shelf.ofPath path).1 = languageOf shelf.opened path ∧
      (shelf.ofPath path).2.1.opened = shelf.opened := by
  unfold ofPath languageOf
  by_cases bare : path.suffix = ""
  · simp [bare]
  · by_cases empty : normalExtension path.suffix = ""
    · simp [bare, empty, ofExtension]
    · have kept := shelf.opened_open?
      have same : shelf.opened = shelf.open?.1 := rfl
      cases result : shelf.open? with
      | mk given rest =>
          rw [result] at kept same
          cases given with
          | error failure =>
              refine ⟨?_, ?_⟩
              · simp [bare, empty, ofExtension, result, same, Except.map]
              · simpa [bare, empty, ofExtension, result] using kept
          | ok registry =>
              refine ⟨?_, ?_⟩
              · simp [bare, empty, ofExtension, result, same, Except.map, Registry.ofPath]
              · simpa [bare, empty, ofExtension, result] using kept

end LanguageShelf

/-- What becomes of a file. -/
inductive FileOutcome where
  /-- Its language is not known. -/
  | unsupported
  | chunked (records : List Record)
  | unchunkable (skipped : SkippedFile)
  /-- What its language is cannot be told. -/
  | failed (failure : Failure)

namespace FileOutcome

def ofLanguage (file : FoundFile) (language : Language) : FileOutcome :=
  match chunkFile file.path file.content.bytes language.name
      fun bytes => language.splitter.split bytes file.content.tree with
  | .ok (records, _) => .chunked records
  | .error (.unchunkable path reason) => .unchunkable ⟨path, reason⟩
  | .error failure => .failed failure

def ofAnswer (file : FoundFile) : Except Failure (Option Language) → FileOutcome
  | .error failure => .failed failure
  | .ok none => .unsupported
  | .ok (some language) => ofLanguage file language

/-- What becomes of a file, by what opening the registry gives. -/
def of (opened : Except Failure Registry) (file : FoundFile) : FileOutcome :=
  ofAnswer file (languageOf opened file.path)

def records : FileOutcome → List Record
  | .chunked records => records
  | _ => []

/-- What the callback is told. -/
def skipped? : FileOutcome → Option SkippedFile
  | .unchunkable skipped => some skipped
  | _ => none

def isRead : FileOutcome → Bool
  | .chunked _ => true
  | .unchunkable _ => true
  | _ => false

/-- Processing the file may fail. -/
def mayFail : FileOutcome → Bool
  | .unchunkable _ => true
  | .failed _ => true
  | _ => false

/-- What processing the file gives, where the callback may give up. -/
def result (givesUp : Bool) : FileOutcome → Except Failure (List Record)
  | .unsupported => .ok []
  | .chunked records => .ok records
  | .unchunkable _ => if givesUp then .error .skipCallback else .ok []
  | .failed failure => .error failure

end FileOutcome

/-- A file whose splitter follows a syntax tree is unchunkable if it cannot be chunked. -/
theorem unchunkable_of_chunkFile {path : Path} {bytes : Except ReadFault (List UInt8)}
    {language : String} {splitter : Splitter} {tree : Option SyntaxNode} {failure : Failure}
    (fails : chunkFile path bytes language (fun bytes => splitter.split bytes tree) =
      .error failure) : ∃ reason, failure = .unchunkable path reason := by
  unfold chunkFile SourceFile.read at fails
  cases bytes with
  | error fault =>
      cases fails
      exact ⟨_, rfl⟩
  | ok bytes =>
      cases tree with
      | some root => cases fails
      | none =>
          cases fails
          exact ⟨_, rfl⟩

namespace FileOutcome

theorem ofLanguage_cases (file : FoundFile) (language : Language) :
    (∃ records events,
      chunkFile file.path file.content.bytes language.name
        (fun bytes => language.splitter.split bytes file.content.tree) = .ok (records, events) ∧
      ofLanguage file language = .chunked records) ∨
    ∃ reason,
      chunkFile file.path file.content.bytes language.name
        (fun bytes => language.splitter.split bytes file.content.tree) =
          .error (.unchunkable file.path reason) ∧
      ofLanguage file language = .unchunkable ⟨file.path, reason⟩ := by
  cases given : chunkFile file.path file.content.bytes language.name
      (fun bytes => language.splitter.split bytes file.content.tree) with
  | ok answer =>
      obtain ⟨records, events⟩ := answer
      exact .inl ⟨records, events, rfl, by simp only [ofLanguage, given]⟩
  | error failure =>
      obtain ⟨reason, rfl⟩ := unchunkable_of_chunkFile given
      exact .inr ⟨reason, rfl, by simp only [ofLanguage, given]⟩

/-- With the registry at hand a file is unsupported, chunked or unchunkable, and nothing else. -/
theorem cases_of_ok (registry : Registry) (file : FoundFile) :
    of (.ok registry) file = .unsupported ∨
      (∃ records, of (.ok registry) file = .chunked records) ∨
      ∃ reason, of (.ok registry) file = .unchunkable ⟨file.path, reason⟩ := by
  rw [of, languageOf_ok]
  cases registry.ofPath file.path with
  | none => exact .inl rfl
  | some language =>
      rcases ofLanguage_cases file language with ⟨records, _, _, same⟩ | ⟨reason, _, same⟩
      · exact .inr (.inl ⟨records, same⟩)
      · exact .inr (.inr ⟨reason, same⟩)

/-- With the registry at hand a file is read exactly if its language is known. -/
theorem isRead_of_ok (registry : Registry) (file : FoundFile) :
    (of (.ok registry) file).isRead = (registry.ofPath file.path).isSome := by
  rw [of, languageOf_ok]
  cases registry.ofPath file.path with
  | none => rfl
  | some language =>
      rcases ofLanguage_cases file language with ⟨_, _, _, outcome⟩ | ⟨_, _, outcome⟩
      · simp [ofAnswer, outcome, isRead]
      · simp [ofAnswer, outcome, isRead]

/-- With the registry at hand it is only the callback that fails. -/
theorem result_of_ok {registry : Registry} {file : FoundFile} {givesUp : Bool} {failure : Failure}
    (fails : (of (.ok registry) file).result givesUp = .error failure) :
    failure = .skipCallback ∧ givesUp = true := by
  rcases cases_of_ok registry file with same | ⟨_, same⟩ | ⟨_, same⟩
  · simp [same, result] at fails
  · simp [same, result] at fails
  · simp only [same, result] at fails
    split at fails
    · rename_i gives
      exact ⟨(Except.error.inj fails).symm, gives⟩
    · cases fails

theorem mayFail_of_ok (registry : Registry) (file : FoundFile) :
    (of (.ok registry) file).mayFail = (of (.ok registry) file).skipped?.isSome := by
  rcases cases_of_ok registry file with same | ⟨_, same⟩ | ⟨_, same⟩ <;> rw [same] <;> rfl

/-- A record of a file is that of a chunk of its syntax tree. -/
theorem exists_chunk_of_mem_records {opened : Except Failure Registry} {file : FoundFile}
    {record : Record} (member : record ∈ (of opened file).records) :
    ∃ (splitter : Splitter) (bytes : List UInt8) (root : SyntaxNode),
      file.content.bytes = .ok bytes ∧ file.content.tree = some root ∧
      ∃ chunk ∈ splitter.splitNode bytes root,
        (SourceFile.ofBytes file.path bytes).recordOf chunk = record := by
  unfold of at member
  generalize languageOf opened file.path = answer at member
  rcases answer with failure | _ | language
  · cases member
  · cases member
  · rcases ofLanguage_cases file language with ⟨records, events, chunked, outcome⟩ | ⟨_, _, outcome⟩
    · rw [ofAnswer, outcome] at member
      cases given : file.content.bytes with
      | error fault => simp [chunkFile, SourceFile.read, given] at chunked
      | ok bytes =>
          cases tree : file.content.tree with
          | none =>
              simp only [chunkFile, SourceFile.read, given, tree, Splitter.split] at chunked
              split at chunked <;> cases chunked
          | some root =>
              simp only [chunkFile, SourceFile.read, given, tree, Splitter.split, Except.ok.injEq,
                Prod.mk.injEq] at chunked
              rw [← chunked.1] at member
              exact ⟨language.splitter, bytes, root, rfl, rfl, List.mem_map.mp member⟩
    · rw [ofAnswer, outcome] at member
      cases member

theorem mayFail_of_result {outcome : FileOutcome} {givesUp : Bool} {failure : Failure}
    (fails : outcome.result givesUp = .error failure) : outcome.mayFail = true := by
  cases outcome with
  | unsupported => cases fails
  | chunked => cases fails
  | _ => rfl

theorem records_of_result {outcome : FileOutcome} {givesUp : Bool} {records : List Record}
    (given : outcome.result givesUp = .ok records) : outcome.records = records := by
  cases outcome with
  | unsupported => exact Except.ok.inj given
  | chunked => exact Except.ok.inj given
  | unchunkable =>
      simp only [result] at given
      split at given
      · cases given
      · exact Except.ok.inj given
  | failed => cases given

theorem records_of_fails {outcome : FileOutcome} {givesUp : Bool} {failure : Failure}
    (fails : outcome.result givesUp = .error failure) : outcome.records = [] := by
  cases outcome with
  | chunked => cases fails
  | _ => rfl

end FileOutcome

namespace Stream

def outcome (stream : Stream) (file : FoundFile) : FileOutcome := .of stream.shelf.opened file

/-- The callback gives up at the next file it is told of. -/
def givesUpNext (stream : Stream) : Bool :=
  match stream.onSkip with
  | none => false
  | some givesUp => givesUp stream.reported.length

/-- Processing the file gives the failure, where the callback gives up only if it does so at some
time. -/
def FailsAt (stream : Stream) (file : FoundFile) (failure : Failure) : Prop :=
  ∃ givesUp, (stream.outcome file).result givesUp = .error failure ∧
    (givesUp = true → ∃ callback told, stream.onSkip = some callback ∧ callback told = true)

theorem failsAt_of_result {stream : Stream} {file : FoundFile} {failure : Failure}
    (fails : (stream.outcome file).result stream.givesUpNext = .error failure) :
    stream.FailsAt file failure := by
  refine ⟨stream.givesUpNext, fails, ?_⟩
  intro gives
  unfold givesUpNext at gives
  split at gives
  · cases gives
  · rename_i callback given
    exact ⟨callback, _, given, gives⟩

/-- From one state of a stream to a later one just these files are processed.  A file is read if its
language is known, and the callback is told of it if it cannot be chunked. -/
structure Handles (before : Stream) (files : List FoundFile) (after : Stream) : Prop where
  opened : after.shelf.opened = before.shelf.opened
  onSkip : after.onSkip = before.onSkip
  reads : after.reads =
    before.reads ++ (files.filter fun file => (before.outcome file).isRead).map FoundFile.path
  reported : after.reported =
    before.reported ++
      if before.onSkip.isSome then files.filterMap fun file => (before.outcome file).skipped?
      else []

namespace Handles

theorem refl (stream : Stream) : Handles stream [] stream where
  opened := rfl
  onSkip := rfl
  reads := (List.append_nil _).symm
  reported := by simp

/-- Neither the walk nor the buffer nor the counts have a part in it. -/
theorem aside {before after : Stream} {files : List FoundFile} (handles : Handles before files after)
    {walker later : Walker} {buffered left : List Record} {stats counted : StreamStats} :
    Handles { before with walker, buffered, stats } files
      { after with walker := later, buffered := left, stats := counted } :=
  ⟨handles.opened, handles.onSkip, handles.reads, handles.reported⟩

theorem outcome {before after : Stream} {files : List FoundFile}
    (handles : Handles before files after) : after.outcome = before.outcome :=
  funext fun file => congrArg (FileOutcome.of · file) handles.opened

theorem failsAt {before after : Stream} {files : List FoundFile} {file : FoundFile}
    {failure : Failure} (handles : Handles before files after) (fails : after.FailsAt file failure) :
    before.FailsAt file failure := by
  unfold FailsAt at fails ⊢
  rw [handles.outcome, handles.onSkip] at fails
  exact fails

theorem trans {first second third : Stream} {files more : List FoundFile}
    (front : Handles first files second) (back : Handles second more third) :
    Handles first (files ++ more) third where
  opened := back.opened.trans front.opened
  onSkip := back.onSkip.trans front.onSkip
  reads := by
    rw [back.reads, front.reads, front.outcome, List.filter_append, List.map_append,
      List.append_assoc]
  reported := by
    rw [back.reported, front.reported, front.outcome, front.onSkip, List.filterMap_append,
      List.append_assoc]
    split <;> rfl

end Handles

structure Processed (stream : Stream) (file : FoundFile) (result : Except Failure (List Record))
    (after : Stream) : Prop where
  handles : Handles stream [file] after
  walker : after.walker = stream.walker
  buffered : after.buffered = stream.buffered
  result : result = (stream.outcome file).result stream.givesUpNext

theorem report_eq (stream : Stream) (skipped : SkippedFile) :
    stream.report skipped =
      ((FileOutcome.unchunkable skipped).result stream.givesUpNext,
        { stream with
          reported := stream.reported ++ if stream.onSkip.isSome then [skipped] else [] }) := by
  obtain ⟨walker, shelf, onSkip, buffered, stats, reported, reads⟩ := stream
  cases onSkip with
  | none => simp [report, givesUpNext, FileOutcome.result]
  | some givesUp =>
      cases gives : givesUp reported.length <;>
        simp [report, givesUpNext, FileOutcome.result, gives]

theorem processed_chunk {stream : Stream} {file : FoundFile} {language : Language}
    (outcome : stream.outcome file = .ofLanguage file language) :
    Processed stream file (stream.chunk file language).1 (stream.chunk file language).2.1 := by
  rcases FileOutcome.ofLanguage_cases file language with
    ⟨records, events, chunked, same⟩ | ⟨reason, fails, same⟩
  · rw [same] at outcome
    simp only [chunk, chunked]
    refine ⟨⟨rfl, rfl, ?_, ?_⟩, rfl, rfl, ?_⟩
    · simp [outcome, FileOutcome.isRead]
    · simp [outcome, FileOutcome.skipped?]
    · rw [outcome]
      rfl
  · rw [same] at outcome
    simp only [chunk, fails, report_eq]
    refine ⟨⟨rfl, rfl, ?_, ?_⟩, rfl, rfl, ?_⟩
    · simp [outcome, FileOutcome.isRead]
    · simp [outcome, FileOutcome.skipped?]
    · rw [outcome]
      rfl

/-- A file without a language is not read, and nobody is told of it. -/
theorem handles_unread {before after : Stream} {file : FoundFile}
    (opened : after.shelf.opened = before.shelf.opened) (onSkip : after.onSkip = before.onSkip)
    (reads : after.reads = before.reads) (reported : after.reported = before.reported)
    (unread : (before.outcome file).isRead = false) : Handles before [file] after := by
  refine ⟨opened, onSkip, ?_, ?_⟩
  · rw [reads]
    simp [unread]
  · have untold : (before.outcome file).skipped? = none := by
      cases outcome : before.outcome file with
      | unchunkable => simp [outcome, FileOutcome.isRead] at unread
      | _ => rfl
    rw [reported]
    simp [untold]

theorem processed_process (stream : Stream) (file : FoundFile) :
    Processed stream file (stream.process file).1 (stream.process file).2.1 := by
  obtain ⟨answer, kept⟩ := stream.shelf.ofPath_spec file.path
  have outcome : stream.outcome file = .ofAnswer file (stream.shelf.ofPath file.path).1 :=
    congrArg (FileOutcome.ofAnswer file) answer.symm
  cases asked : stream.shelf.ofPath file.path with
  | mk given rest =>
      obtain ⟨shelf, events⟩ := rest
      rw [asked] at outcome kept
      simp only [process, asked]
      rcases given with failure | _ | language
      · exact ⟨handles_unread kept rfl rfl rfl (outcome ▸ rfl), rfl, rfl, outcome ▸ rfl⟩
      · exact ⟨handles_unread kept rfl rfl rfl (outcome ▸ rfl), rfl, rfl, outcome ▸ rfl⟩
      · let seen : Stream := { stream with
          shelf, stats := { stream.stats with filesSeen := stream.stats.filesSeen + 1 } }
        have entered : Handles stream [] seen := ⟨kept, rfl, by simp [seen], by simp [seen]⟩
        have known : seen.outcome file = .ofLanguage file language :=
          (congrFun entered.outcome file).trans outcome
        have processed := processed_chunk known
        refine ⟨entered.trans processed.handles, processed.walker, processed.buffered, ?_⟩
        rw [← entered.outcome]
        exact processed.result

theorem processed_of_eq {stream after : Stream} {file : FoundFile}
    {result : Except Failure (List Record)} {events : List Event}
    (processed : stream.process file = (result, after, events)) :
    Processed stream file result after := by
  have does := stream.processed_process file
  rw [processed] at does
  exact does

end Stream

end SourceIndex
