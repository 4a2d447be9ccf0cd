import SourceIndex.Settings.Acceptance

/-! # The settings that are made of accepted values

Each setting takes the value that is given for it, whatever is given for the others: the settings are
made exactly when each value that is given is accepted, and each of them is what its value stands for
or, where none is given, what holds otherwise (`settings_ok_iff`). -/
set_option autoImplicit false
namespace SourceIndex.Acceptance

/-! ## Faults are told -/

section
variable (place : String)

/-- A value is accepted, or something is wrong with it. -/
def Told {α : Type} (result : Accepted α) : Prop := result ≠ .error []

theorem told_ok {α : Type} (accepted : α) : Told (.ok accepted) := nofun

theorem told_reject {α : Type} (fault : String) : Told (reject place fault : Accepted α) := nofun

theorem told_text (v : Value) : Told (text place v) := by
  cases v <;> nofun

theorem told_optionalText (v : Value) : Told (optionalText place v) := by
  cases v <;> nofun

theorem told_path (v : Value) : Told (path place v) := by
  cases v <;> nofun

theorem told_wholeNumber (x : Float) : Told (wholeNumber place x) := by
  unfold wholeNumber
  split
  · exact told_reject place _
  · exact told_reject place _
  · dsimp only
    split
    · exact told_reject place _
    · split
      · exact told_ok _
      · exact told_reject place _

theorem told_integer (v : Value) : Told (integer place v) := by
  cases v with
  | real x => exact told_wholeNumber place x
  | text s =>
      unfold integer
      dsimp only
      split
      · exact told_ok _
      · exact told_reject place _
      · exact told_reject place _
  | _ => nofun

theorem told_zeroOrOne (n : Int) : Told (zeroOrOne place n) := by
  unfold zeroOrOne
  split
  · exact told_ok _
  · split
    · exact told_ok _
    · exact told_reject place _

theorem told_truth (v : Value) : Told (truth place v) := by
  cases v with
  | integer n => exact told_zeroOrOne place n
  | real x =>
      unfold truth
      dsimp only
      split
      · exact told_zeroOrOne place _
      · exact told_reject place _
  | text s =>
      unfold truth
      dsimp only
      split
      · exact told_ok _
      · exact told_reject place _
  | _ => nofun

theorem told_textsFrom (items : List Value) : ∀ index, Told (textsFrom place index items) := by
  induction items with
  | nil => exact fun _ => told_ok _
  | cons v rest ih =>
      intro index
      have here := told_text (place ++ "." ++ toString index) v
      have behind := ih (index + 1)
      unfold textsFrom
      split
      · exact told_ok _
      · rename_i others
        exact fun none => behind (others.trans (congrArg Except.error (Except.error.inj none)))
      · rename_i first _
        exact fun none => here (first.trans (congrArg Except.error (Except.error.inj none)))
      · rename_i first _
        intro none
        have empty := (List.append_eq_nil_iff.mp (Except.error.inj none)).1
        exact here (first.trans (congrArg Except.error empty))

theorem told_texts (v : Value) : Told (texts place v) := by
  cases v with
  | list items => exact told_textsFrom place items 0
  | _ => nofun

end

/-! ## Taking one setting after another -/

/-- A setting: its name, which values it accepts, and where it is held. -/
structure Setting where
  Kept : Type
  name : String
  accept : String → Value → Accepted Kept
  read : Settings → Kept
  assign : Settings → Kept → Settings
  read_assign : ∀ settings kept, read (assign settings kept) = kept
  told : ∀ place v, Told (accept place v)

namespace Setting

/-- The setting is what the given value stands for, or as otherwise where none is given. -/
def valueOf (setting : Setting) (given : Entries) (otherwise : setting.Kept) : setting.Kept :=
  match Value.lookup setting.name given with
  | none => otherwise
  | some v =>
    match setting.accept setting.name v with
    | .ok kept => kept
    | .error _ => otherwise

/-- A value that is given is accepted. -/
def Accepts (setting : Setting) (given : Entries) : Prop :=
  ∀ v, Value.lookup setting.name given = some v → ∃ kept, setting.accept setting.name v = .ok kept

def takeFrom (given : Entries) (state : Settings × List Fault) (setting : Setting) :
    Settings × List Fault :=
  take given setting.name setting.accept setting.assign state

/-- Assigning the one does not change the other. -/
def Apart (setting other : Setting) : Prop :=
  ∀ settings kept, other.read (setting.assign settings kept) = other.read settings

variable {given : Entries} {setting other : Setting}

theorem read_takeFrom (state : Settings × List Fault) :
    setting.read (takeFrom given state setting).1 = setting.valueOf given (setting.read state.1) := by
  unfold takeFrom take valueOf
  cases Value.lookup setting.name given with
  | none => rfl
  | some v =>
      cases accepted : setting.accept setting.name v with
      | error faults => simp [accepted]
      | ok kept => simp [accepted, setting.read_assign]

theorem read_takeFrom_of_apart (apart : setting.Apart other) (state : Settings × List Fault) :
    other.read (takeFrom given state setting).1 = other.read state.1 := by
  unfold takeFrom take
  cases Value.lookup setting.name given with
  | none => rfl
  | some v =>
      cases accepted : setting.accept setting.name v with
      | error faults => simp [accepted]
      | ok kept => simpa [accepted] using apart state.1 kept

theorem faults_takeFrom (state : Settings × List Fault) :
    (takeFrom given state setting).2 = [] ↔ state.2 = [] ∧ setting.Accepts given := by
  unfold takeFrom take Accepts
  cases Value.lookup setting.name given with
  | none => simp
  | some v =>
      cases accepted : setting.accept setting.name v with
      | ok kept => simp [accepted]
      | error faults =>
          have some : faults ≠ [] := fun none =>
            setting.told setting.name v (accepted.trans (congrArg Except.error none))
          simp [accepted, some]

theorem faults_foldl (settings : List Setting) : ∀ state,
    (settings.foldl (takeFrom given) state).2 = [] ↔
      state.2 = [] ∧ ∀ setting ∈ settings, setting.Accepts given := by
  induction settings with
  | nil => simp
  | cons setting rest ih =>
      intro state
      rw [List.foldl_cons, ih, faults_takeFrom, List.forall_mem_cons, and_assoc]

theorem read_foldl_of_apart {settings : List Setting} :
    ∀ {state}, (∀ setting ∈ settings, setting.Apart other) →
      other.read (settings.foldl (takeFrom given) state).1 = other.read state.1 := by
  induction settings with
  | nil => exact fun _ => rfl
  | cons setting rest ih =>
      intro state apart
      obtain ⟨here, behind⟩ := List.forall_mem_cons.mp apart
      rw [List.foldl_cons, ih behind, read_takeFrom_of_apart here]

/-- Each of several settings that are apart takes its own value. -/
theorem read_foldl {settings : List Setting}
    (apart : settings.Pairwise fun setting other => setting.Apart other ∧ other.Apart setting) :
    ∀ state, ∀ setting ∈ settings,
      setting.read (settings.foldl (takeFrom given) state).1 =
        setting.valueOf given (setting.read state.1) := by
  induction apart with
  | nil => exact fun _ _ impossible => by cases impossible
  | @cons first rest here _ ih =>
      intro state setting member
      rw [List.foldl_cons]
      rcases List.mem_cons.mp member with rfl | among
      -- the first is left alone by those behind it, and leaves those behind it alone
      · rw [read_foldl_of_apart fun other later => (here other later).2, read_takeFrom]
      · rw [ih _ setting among, read_takeFrom_of_apart (here setting among).1]

end Setting

/-! ## All settings -/

/-- The settings in the order in which they are taken. -/
def known : List Setting :=
  [⟨_, "workspace_root", path, (·.workspaceRoot), fun s v => { s with workspaceRoot := v },
      fun _ _ => rfl, told_path⟩,
    ⟨_, "splitter_max_size", integer, (·.splitterMaxSize),
      fun s v => { s with splitterMaxSize := v }, fun _ _ => rfl, told_integer⟩,
    ⟨_, "ignore_patterns", texts, (·.ignorePatterns), fun s v => { s with ignorePatterns := v },
      fun _ _ => rfl, told_texts⟩,
    ⟨_, "embedding_provider", text, (·.embeddingProvider),
      fun s v => { s with embeddingProvider := v }, fun _ _ => rfl, told_text⟩,
    ⟨_, "embedding_model", text, (·.embeddingModel), fun s v => { s with embeddingModel := v },
      fun _ _ => rfl, told_text⟩,
    ⟨_, "embedding_batch_size", integer, (·.embeddingBatchSize),
      fun s v => { s with embeddingBatchSize := v }, fun _ _ => rfl, told_integer⟩,
    ⟨_, "embedding_api_base", optionalText, (·.embeddingApiBase),
      fun s v => { s with embeddingApiBase := v }, fun _ _ => rfl, told_optionalText⟩,
    ⟨_, "embedding_api_key", optionalText, (·.embeddingApiKey),
      fun s v => { s with embeddingApiKey := v }, fun _ _ => rfl, told_optionalText⟩,
    ⟨_, "milvus_uri", text, (·.milvusUri), fun s v => { s with milvusUri := v }, fun _ _ => rfl,
      told_text⟩,
    ⟨_, "milvus_collection", text, (·.milvusCollection),
      fun s v => { s with milvusCollection := v }, fun _ _ => rfl, told_text⟩,
    ⟨_, "milvus_username", optionalText, (·.milvusUsername),
      fun s v => { s with milvusUsername := v }, fun _ _ => rfl, told_optionalText⟩,
    ⟨_, "milvus_password", optionalText, (·.milvusPassword),
      fun s v => { s with milvusPassword := v }, fun _ _ => rfl, told_optionalText⟩,
    ⟨_, "milvus_insert_batch_size", integer, (·.milvusInsertBatchSize),
      fun s v => { s with milvusInsertBatchSize := v }, fun _ _ => rfl, told_integer⟩,
    ⟨_, "log_level", text, (·.logLevel), fun s v => { s with logLevel := v }, fun _ _ => rfl,
      told_text⟩,
    ⟨_, "log_json", truth, (·.logJson), fun s v => { s with logJson := v }, fun _ _ => rfl,
      told_truth⟩]

theorem takeAll_eq (given : Entries) :
    takeAll given = known.foldl (Setting.takeFrom given) ({}, []) := rfl

theorem apart_known :
    known.Pairwise fun setting other => setting.Apart other ∧ other.Apart setting := by
  simp [known, Setting.Apart]

/-- Settings that agree in each of the known ones are the same. -/
theorem eq_of_read {one other : Settings}
    (same : ∀ setting ∈ known, setting.read one = setting.read other) : one = other := by
  simp only [known, List.forall_mem_cons] at same
  cases one
  cases other
  simp_all

/-- The setting has the value that is given for it, or where none is given its usual one. -/
def Setting.Holds (setting : Setting) (given : Entries) (settings : Settings) : Prop :=
  match Value.lookup setting.name given with
  | none => setting.read settings = setting.read {}
  | some v => setting.accept setting.name v = .ok (setting.read settings)

theorem Setting.holds_iff {setting : Setting} {given : Entries} {settings : Settings} :
    setting.Holds given settings ↔ setting.Accepts given ∧
      setting.read settings = setting.valueOf given (setting.read {}) := by
  unfold Holds Accepts valueOf
  cases Value.lookup setting.name given with
  | none => simp
  | some v =>
      cases accepted : setting.accept setting.name v with
      | error faults => simp [accepted]
      | ok kept => simp [accepted, eq_comm]

/-- Settings are made exactly when each value that is given is accepted, and then each setting has its
own value. -/
theorem settings_ok_iff (given : Entries) (made : Settings) :
    settings given = .ok made ↔ ∀ setting ∈ known, setting.Holds given made := by
  have faults := @Setting.faults_foldl given known ({}, [])
  have reads := @Setting.read_foldl given known apart_known ({}, [])
  rw [← takeAll_eq] at faults reads
  have unfolded : settings given = .ok made ↔ (takeAll given).2 = [] ∧ (takeAll given).1 = made := by
    unfold settings
    split
    · rename_i all
      simp [all]
    · rename_i none all
      rw [all]
      simpa using fun empty => absurd empty none
  simp only [unfolded, faults, Setting.holds_iff, true_and]
  constructor
  · rintro ⟨accepts, rfl⟩ setting member
    exact ⟨accepts setting member, reads setting member⟩
  · intro holds
    refine ⟨fun setting member => (holds setting member).1, eq_of_read fun setting member => ?_⟩
    exact (reads setting member).trans (holds setting member).2.symm

end SourceIndex.Acceptance
