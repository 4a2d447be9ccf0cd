import SourceIndex.Proofs.IndexRun.Notices
import SourceIndex.Proofs.IndexRun.Stages
import SourceIndex.Proofs.IndexRun.Workspace

/-! # How an index run ends

A run whose stage callback never gives up ends early, before any call on the server, or behind both
datasets, or with a result (`ending_stages`).  Whatever its end, the stages were announced in order. -/
set_option autoImplicit false
namespace SourceIndex.IndexRun

/-- Between two states of a run just these things are noticed. -/
def Adds (before after : IndexProgress) (stages : List Stage) (skipped : List SkippedFile)
    (calls : List ServerCall) : Prop :=
  ∃ more, after.notices = before.notices ++ more ∧ Noticed more stages skipped calls

namespace Adds

variable {before middle after : IndexProgress} {stages later : List Stage}
  {skipped others : List SkippedFile} {calls more : List ServerCall}

theorem trans (front : Adds before middle stages skipped calls)
    (back : Adds middle after later others more) :
    Adds before after (stages ++ later) (skipped ++ others) (calls ++ more) := by
  obtain ⟨first, same, noticed⟩ := front
  obtain ⟨second, too, behind⟩ := back
  exact ⟨first ++ second, by rw [too, same, List.append_assoc], noticed.append behind⟩

theorem noticed (adds : Adds before after stages skipped calls) (fresh : before.notices = []) :
    Noticed after.notices stages skipped calls := by
  obtain ⟨more, same, noticed⟩ := adds
  rw [same, fresh]
  exact noticed

end Adds

/-! ## What each stage does -/

theorem announce_cases {callbacks : IndexCallbacks}
    (calm : ∀ givesUp, callbacks.stage = some givesUp → ∀ stage, givesUp stage = false)
    (stage : Stage) (before : IndexProgress) :
    ∃ after, (announce callbacks stage).perform before = (.ok (), after) ∧
      after.files = before.files ∧ Adds before after [stage] [] [] :=
  ⟨_, perform_announce calm stage before, rfl, _, rfl, .of_stage stage⟩

theorem tell_cases (event : Event) (before : IndexProgress) :
    ∃ after, (tell [.event event]).perform before = (.ok (), after) ∧
      after.files = before.files ∧ Adds before after [] [] [] :=
  ⟨_, perform_tell _ before, rfl, _, rfl, .of_events [event]⟩

theorem chunk_cases (setup : IndexSetup) (before : IndexProgress) :
    (∃ failure after skipped,
      (before.files.writeChunks setup.stream (chunksPath setup.workspace) (setup.faults .chunk)).1 =
        .error failure ∧
      (chunk setup).perform before = (.error failure, after) ∧ Adds before after [] skipped []) ∨
    ∃ rows last events after,
      before.files.writeChunks setup.stream (chunksPath setup.workspace) (setup.faults .chunk) =
        (.ok rows, after.files, last, events) ∧
      (chunk setup).perform before = (.ok (rows, last.reported), after) ∧
      Adds before after [] last.reported [] := by
  rw [perform_chunk]
  cases writes : before.files.writeChunks setup.stream (chunksPath setup.workspace)
      (setup.faults .chunk) with
  | mk result rest =>
      obtain ⟨files, last, events⟩ := rest
      have noticed := (Noticed.of_events events).append (.of_skipped last.reported)
      cases result with
      | error failure => exact .inl ⟨failure, _, _, rfl, rfl, _, rfl, noticed⟩
      | ok rows => exact .inr ⟨rows, last, events, _, rfl, rfl, _, rfl, noticed⟩

/-- The client cannot be made, or the embedding dataset cannot be written with it. -/
def EmbeddingFails (setup : IndexSetup) (files : FileStore) (failure : Failure) : Prop :=
  setup.client.1 = .error failure ∨
    ∃ client, setup.client.1 = .ok client ∧
      (files.embedDataset (chunksPath setup.workspace).text (embeddingsPath setup.workspace)
        (.ok client, []) setup.batchSize (setup.faults .embedding)).1 = .error failure

theorem embed_cases (setup : IndexSetup) (before : IndexProgress) :
    (∃ failure after, EmbeddingFails setup before.files failure ∧
      (embed setup).perform before = (.error failure, after) ∧ Adds before after [] [] []) ∨
    ∃ client count trace events after, setup.client.1 = .ok client ∧
      before.files.embedDataset (chunksPath setup.workspace).text
        (embeddingsPath setup.workspace) (.ok client, []) setup.batchSize (setup.faults .embedding) =
        (.ok count, after.files, trace, events) ∧
      (embed setup).perform before = (.ok (), after) ∧ Adds before after [] [] [] := by
  rw [perform_embed]
  have made := Noticed.of_events setup.client.2
  cases given : setup.client.1 with
  | error failure => exact .inl ⟨failure, _, .inl given, rfl, _, rfl, made⟩
  | ok client =>
      dsimp only
      cases embeds : before.files.embedDataset (chunksPath setup.workspace).text
          (embeddingsPath setup.workspace) (.ok client, []) setup.batchSize
          (setup.faults .embedding) with
      | mk result rest =>
          obtain ⟨files, trace, events⟩ := rest
          have told := (Noticed.of_events events).append (.of_embedded trace.progress)
          cases result with
          | error failure =>
              exact .inl ⟨failure, _, .inr ⟨client, given, congrArg Prod.fst embeds⟩, rfl, _,
                List.append_assoc .., made.append told⟩
          | ok count =>
              exact .inr ⟨client, count, trace, events, _, rfl, embeds, rfl, _,
                List.append_assoc .., made.append told⟩

theorem load_cases {setup : IndexSetup} {store : VectorStore}
    (target : setup.target = .vectors store) (before : IndexProgress) :
    ∃ final occurrences after result,
      store.indexDataset before.files (embeddingsPath setup.workspace).text =
        (result, final, occurrences) ∧
      (load setup).perform before = (result, after) ∧ after.files = before.files ∧
      Adds before after [] [] (occurrences.filterMap Occurrence.call?) := by
  rw [perform_load target]
  exact ⟨_, _, _, _, rfl, rfl, rfl, _, rfl, .of_occurrences _⟩

/-! ## The end of a run -/

/-- Both datasets have been written into the workspace: first `rows` chunks, by a stream that ends as
`last`, and then their vectors. -/
structure Prepared (setup : IndexSetup) (rows : Nat) (last : Stream) (client : ValueClient)
    (after : FileStore) : Prop where
  made : setup.client.1 = .ok client
  written : ∃ opened chunked events count trace told,
    FileStore.writeChunks opened setup.stream (chunksPath setup.workspace) (setup.faults .chunk) =
      (.ok rows, chunked, last, events) ∧
    FileStore.embedDataset chunked (chunksPath setup.workspace).text
      (embeddingsPath setup.workspace) (.ok client, []) setup.batchSize (setup.faults .embedding) =
      (.ok count, after, trace, told)

/-- The ways in which a run fails before both datasets are there: the workspace cannot be opened,
the tree cannot be chunked into it, or the chunks in it cannot be embedded. -/
inductive FailsEarly (setup : IndexSetup) (files : FileStore) : Failure → Prop where
  | workspace {cause : OsError} (shut : files.ensureDirectory setup.workspace = .error cause)
      (stuck : ¬files.Makeable setup.workspace) : FailsEarly setup files (.fileSystem cause)
  | chunks {opened : FileStore} {failure : Failure}
      (opens : files.ensureDirectory setup.workspace = .ok opened)
      (fails : (opened.writeChunks setup.stream (chunksPath setup.workspace)
        (setup.faults .chunk)).1 = .error failure) : FailsEarly setup files failure
  | embeddings {opened chunked : FileStore} {rows : Nat} {last : Stream} {events : List Event}
      {failure : Failure} (opens : files.ensureDirectory setup.workspace = .ok opened)
      (writes : opened.writeChunks setup.stream (chunksPath setup.workspace) (setup.faults .chunk) =
        (.ok rows, chunked, last, events))
      (fails : EmbeddingFails setup chunked failure) : FailsEarly setup files failure

/-- The ways in which a run ends. -/
inductive Ending (setup : IndexSetup) (store : VectorStore) (files : FileStore) :
    Except Failure IndexResult → IndexProgress → Prop where
  /-- It fails before the datasets are there. -/
  | early {failure : Failure} {after : IndexProgress} {stages : List Stage}
      {skipped : List SkippedFile} (fails : FailsEarly setup files failure)
      (front : stages <+: Stage.all) (noticed : Noticed after.notices stages skipped []) :
      Ending setup store files (.error failure) after
  /-- It fails while the rows are loaded. -/
  | unloaded {failure : Failure} {after : IndexProgress} {rows : Nat} {last : Stream}
      {client : ValueClient} {calls : List ServerCall}
      (prepared : Prepared setup rows last client after.files)
      (fails : (store.indexDataset after.files (embeddingsPath setup.workspace).text).1 =
        .error failure)
      (noticed : Noticed after.notices Stage.all.dropLast last.reported calls) :
      Ending setup store files (.error failure) after
  /-- It gives a result. -/
  | finished {result : IndexResult} {after : IndexProgress} {last : Stream} {client : ValueClient}
      {final : VectorStore} {occurrences : List Occurrence}
      (prepared : Prepared setup result.chunkCount last client after.files)
      (skipped : result.skipped = last.reported)
      (loaded : store.indexDataset after.files (embeddingsPath setup.workspace).text =
        (.ok result.embeddingsIndexed, final, occurrences))
      (noticed : Noticed after.notices Stage.all last.reported
        (occurrences.filterMap Occurrence.call?)) : Ending setup store files (.ok result) after

/-- A run whose stage callback never gives up ends in one of these ways. -/
theorem ending_stages {setup : IndexSetup} {store : VectorStore}
    (target : setup.target = .vectors store)
    (calm : ∀ givesUp, setup.callbacks.stage = some givesUp → ∀ stage, givesUp stage = false)
    (files : FileStore) :
    Ending setup store files ((stages setup).perform { files }).1
      ((stages setup).perform { files }).2 := by
  unfold stages
  have opening := perform_openWorkspace setup.workspace { files }
  cases opens : files.ensureDirectory setup.workspace with
  | error cause =>
      rw [opens] at opening
      rw [perform_bind_error _ opening]
      have stuck : ¬files.Makeable setup.workspace := by
        intro makeable
        obtain ⟨_, made, _⟩ := FileStore.ensureDirectory_of_makeable makeable
        rw [opens] at made
        cases made
      exact .early (.workspace opens stuck) List.nil_prefix .nil
  | ok opened =>
      rw [opens] at opening
      -- the parts are performed one after the other, and `seen` holds of all up to the last of them
      obtain ⟨first, begun, here, seen⟩ := announce_cases calm .chunkStarted ⟨opened, []⟩
      have atFirst : first.files = opened := here
      rw [perform_bind_ok _ opening, perform_bind_ok _ begun]
      rcases chunk_cases setup first with
        ⟨failure, after, skipped, fails, failed, adds⟩ |
        ⟨rows, last, events, second, writes, chunks, adds⟩
      · rw [perform_bind_error _ failed]
        exact .early (.chunks opens (atFirst ▸ fails)) (by decide) ((seen.trans adds).noticed rfl)
      replace seen := seen.trans adds
      obtain ⟨third, chunked, kept, adds⟩ := announce_cases calm .chunkCompleted second
      replace seen := seen.trans adds
      obtain ⟨fourth, embedding, keptToo, adds⟩ := announce_cases calm .embeddingStarted third
      replace seen := seen.trans adds
      rw [perform_bind_ok _ chunks]
      dsimp only
      rw [perform_bind_ok _ chunked, perform_bind_ok _ embedding]
      rcases embed_cases setup fourth with
        ⟨failure, after, fails, failed, adds⟩ |
        ⟨client, count, trace, told, fifth, made, embeds, ran, adds⟩
      · rw [perform_bind_error _ failed]
        rw [keptToo, kept] at fails
        exact .early (.embeddings opens (atFirst ▸ writes) fails) (by decide)
          ((seen.trans adds).noticed rfl)
      replace seen := seen.trans adds
      obtain ⟨sixth, embedded, keptThen, adds⟩ := announce_cases calm .embeddingCompleted fifth
      replace seen := seen.trans adds
      obtain ⟨seventh, inserting, keptStill, adds⟩ := announce_cases calm .insertStarted sixth
      replace seen := seen.trans adds
      rw [perform_bind_ok _ ran, perform_bind_ok _ embedded, perform_bind_ok _ inserting]
      obtain ⟨final, occurrences, eighth, result, loads, loaded, stays, adds⟩ :=
        load_cases target seventh
      replace seen := seen.trans adds
      -- behind the second write nothing touches the files
      have same : eighth.files = fifth.files := stays.trans (keptStill.trans keptThen)
      have prepared : Prepared setup rows last client eighth.files :=
        ⟨made, first.files, second.files, events, count, trace, told, writes, by
          rw [same, ← kept, ← keptToo]
          exact embeds⟩
      cases result with
      | error failure =>
          rw [perform_bind_error _ loaded]
          have noticed := seen.noticed rfl
          simp only [List.append_nil, List.nil_append] at noticed
          rw [← stays] at loads
          exact .unloaded prepared (congrArg Prod.fst loads) noticed
      | ok inserted =>
          obtain ⟨ninth, completed, keptLast, adds⟩ := announce_cases calm .insertCompleted eighth
          replace seen := seen.trans adds
          let result : IndexResult :=
            { root := setup.root, chunkCount := rows, embeddingsIndexed := inserted,
              collection := setup.target.collection, chunksPath := chunksPath setup.workspace,
              embeddingsPath := embeddingsPath setup.workspace, skipped := last.reported }
          obtain ⟨tenth, ended, keptEnd, adds⟩ := tell_cases (finished result) ninth
          have noticed := (seen.trans adds).noticed rfl
          simp only [List.append_nil, List.nil_append] at noticed
          have stands : tenth.files = eighth.files := keptEnd.trans keptLast
          rw [perform_bind_ok _ loaded, perform_bind_ok _ completed, perform_bind_ok _ ended]
          change Ending setup store files (.ok result) tenth
          rw [← stands] at prepared stays
          rw [← stays] at loads
          exact .finished prepared rfl loads noticed

end SourceIndex.IndexRun
