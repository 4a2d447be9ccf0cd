import SourceIndex.IndexRun

/-! # The stages of an index run

Each part of a run gives its result and adds to what was noticed; a failure keeps the later parts
from being begun (`perform_bind`). -/
set_option autoImplicit false
namespace SourceIndex.IndexRun

/-- What a run gives, and how things stand behind it. -/
def perform {α : Type} (run : IndexRun α) (before : IndexProgress) :
    Except Failure α × IndexProgress :=
  StateT.run (ExceptT.run run) before

theorem perform_bind {α β : Type} (run : IndexRun α) (next : α → IndexRun β)
    (before : IndexProgress) :
    (run >>= next).perform before =
      match run.perform before with
      | (.ok given, after) => (next given).perform after
      | (.error failure, after) => (.error failure, after) := by
  unfold perform StateT.run ExceptT.run
  simp only [bind, ExceptT.bind, ExceptT.mk, StateT.bind]
  cases run before with
  | mk result after => cases result <;> rfl

section
variable {α β : Type} {run : IndexRun α} {before after : IndexProgress} (next : α → IndexRun β)

theorem perform_bind_ok {given : α} (ran : run.perform before = (.ok given, after)) :
    (run >>= next).perform before = (next given).perform after := by
  rw [perform_bind, ran]

theorem perform_bind_error {failure : Failure}
    (failed : run.perform before = (.error failure, after)) :
    (run >>= next).perform before = (.error failure, after) := by
  rw [perform_bind, failed]

end

theorem perform_tell (notices : List Notice) (before : IndexProgress) :
    (tell notices).perform before =
      (.ok (), { before with notices := before.notices ++ notices }) := rfl

theorem perform_announce {callbacks : IndexCallbacks}
    (calm : ∀ givesUp, callbacks.stage = some givesUp → ∀ stage, givesUp stage = false)
    (stage : Stage) (before : IndexProgress) :
    (announce callbacks stage).perform before =
      (.ok (), { before with notices := before.notices ++ [.stage stage] }) := by
  unfold announce
  rw [perform_bind, perform_tell]
  dsimp only
  cases callback : callbacks.stage with
  | none => rfl
  | some givesUp =>
      have goesOn := calm givesUp callback stage
      simp only [goesOn]
      rfl

theorem perform_get (before : IndexProgress) :
    (get : IndexRun IndexProgress).perform before = (.ok before, before) := rfl

theorem perform_openWorkspace (workspace : Path) (before : IndexProgress) :
    (openWorkspace workspace).perform before =
      match before.files.ensureDirectory workspace with
      | .error cause => (.error (.fileSystem cause), before)
      | .ok files => (.ok (), { before with files }) := by
  unfold openWorkspace
  rw [perform_bind, perform_get]
  dsimp only
  cases before.files.ensureDirectory workspace <;> rfl

theorem perform_chunk (setup : IndexSetup) (before : IndexProgress) :
    (chunk setup).perform before =
      let (result, files, last, events) :=
        before.files.writeChunks setup.stream (chunksPath setup.workspace) (setup.faults .chunk)
      (result.map fun rows => (rows, last.reported),
        ⟨files, before.notices ++ (events.map .event ++ last.reported.map .skipped)⟩) := by
  unfold chunk
  rw [perform_bind, perform_get]
  cases written : before.files.writeChunks setup.stream (chunksPath setup.workspace)
      (setup.faults .chunk) with
  | mk result rest =>
      obtain ⟨files, last, events⟩ := rest
      cases result <;> simp only [written] <;> rfl

theorem perform_embed (setup : IndexSetup) (before : IndexProgress) :
    (embed setup).perform before =
      let told := before.notices ++ setup.client.2.map .event
      match setup.client.1 with
      | .error failure => (.error failure, { before with notices := told })
      | .ok client =>
        let (result, files, trace, events) :=
          before.files.embedDataset (chunksPath setup.workspace).text
            (embeddingsPath setup.workspace) (.ok client, []) setup.batchSize
            (setup.faults .embedding)
        (result.map fun _ => (),
          ⟨files, told ++ (events.map .event ++
            trace.progress.map fun (done, total) => .embedded done total)⟩) := by
  unfold embed
  obtain ⟨client, made⟩ := setup.client
  cases client with
  | error failure => rfl
  | ok client =>
      cases embedded : before.files.embedDataset (chunksPath setup.workspace).text
          (embeddingsPath setup.workspace) (.ok client, []) setup.batchSize
          (setup.faults .embedding) with
      | mk result rest =>
          obtain ⟨files, trace, events⟩ := rest
          have given : (liftM (.ok client : Except Failure ValueClient) : IndexRun ValueClient).perform
              { before with notices := before.notices ++ made.map .event } =
                (.ok client, { before with notices := before.notices ++ made.map .event }) := rfl
          simp only [perform_bind, perform_tell, perform_get, given, embedded]
          cases result <;> rfl

theorem perform_load {setup : IndexSetup} {store : VectorStore}
    (target : setup.target = .vectors store) (before : IndexProgress) :
    (load setup).perform before =
      let (result, _, occurrences) :=
        store.indexDataset before.files (embeddingsPath setup.workspace).text
      (result, { before with notices := before.notices ++ occurrences.map Occurrence.notice }) := by
  unfold load
  rw [perform_bind, perform_get, target]
  cases loaded : store.indexDataset before.files (embeddingsPath setup.workspace).text with
  | mk result rest =>
      obtain ⟨after, occurrences⟩ := rest
      simp only [loaded]
      cases result <;> rfl

end SourceIndex.IndexRun
