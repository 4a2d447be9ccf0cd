import SourceIndex.Proofs.Settings.Flattening
import SourceIndex.Settings.Load

/-! # Settings of a document alone

Without variables for the settings these come from the document.  They are what the values in it stand
for exactly where the treatment of each value keeps it (`load_as_written_iff`);
`quoted_false_is_true` shows a document where one is not kept. -/
set_option autoImplicit false
namespace SourceIndex

open Acceptance (known)
open Document (knownSections sectionOf)

namespace Environment

/-- No setting is taken from a variable of the name, in small or capital letters. -/
def SilentName (name : String) : Prop :=
  (∀ setting ∈ known.map Acceptance.Setting.name, Text.lower name ≠ variableFront ++ setting) ∧
    (variableFront ++ "ignore_patterns__").toList.isPrefixOf (Text.lower name).toList = false

/-- No setting is taken from the variables. -/
def Silent (environment : Environment) : Prop := ∀ entry ∈ environment, SilentName entry.1

theorem silent_nil : Silent [] := List.forall_mem_nil _

variable {environment : Environment}

theorem Silent.lowered? (silent : environment.Silent) {setting : String}
    (among : setting ∈ known.map Acceptance.Setting.name) :
    environment.lowered? (variableFront ++ setting) = none := by
  have none : ∀ entry ∈ environment.reverse,
      ¬(Text.lower entry.1 == variableFront ++ setting) = true := by
    intro entry there
    simpa using (silent entry (List.mem_reverse.mp there)).1 setting among
  rw [Environment.lowered?, List.find?_eq_none.mpr none]
  rfl

theorem Silent.entries (silent : environment.Silent) : environment.entries = .ok [] := by
  have plain : environment.plainEntries = [] := by
    have settings : ∀ setting ∈ plainSettings, setting ∈ known.map Acceptance.Setting.name := by decide
    refine List.filterMap_eq_nil_iff.mpr fun setting among => ?_
    rw [silent.lowered? (settings setting among)]
    rfl
  have parts : environment.hasPatternPart = false := by
    exact List.any_eq_false.mpr fun entry there => ne_true_of_eq_false (silent entry there).2
  have patterns : environment.patternEntries = .ok [] := by
    rw [patternEntries, silent.lowered? (by decide), parts]
    rfl
  rw [Environment.entries, patterns, plain]
  rfl

theorem Silent.set (silent : environment.Silent) {name value : String} {after : Environment}
    (quiet : SilentName name) (done : environment.set name value = .ok after) : after.Silent := by
  unfold Environment.set at done
  split at done
  · cases done
  · cases done
    exact List.forall_mem_cons.mpr ⟨quiet, fun entry there => silent entry (List.mem_filter.mp there).1⟩

theorem silentName_parallelism : SilentName "TOKENIZERS_PARALLELISM" := by
  have small : Text.lower "TOKENIZERS_PARALLELISM" = "tokenizers_parallelism" := by decide +kernel
  rw [SilentName, small]
  decide

theorem silentName_providerKey : SilentName "OPENAI_API_KEY" := by
  have small : Text.lower "OPENAI_API_KEY" = "openai_api_key" := by decide +kernel
  rw [SilentName, small]
  decide

theorem Silent.setParallelism (silent : environment.Silent) {document : Entries}
    {after : Environment} (done : environment.setParallelism document = .ok after) :
    after.Silent := by
  unfold Environment.setParallelism at done
  split at done
  · cases done
  · cases done
    exact silent
  · cases done
    exact silent
  · exact silent.set silentName_parallelism done

theorem Silent.setProviderKey (silent : environment.Silent) {document : Entries}
    {after : Environment} (done : environment.setProviderKey document = .ok after) :
    after.Silent := by
  unfold Environment.setProviderKey at done
  split at done
  · cases done
  · cases done
    exact silent
  · split at done
    · cases done
      exact silent
    · split at done
      · exact silent.set silentName_providerKey done
      · cases done

/-- The variables that a document sets are none for settings. -/
theorem Silent.override (silent : environment.Silent) (document : Entries) :
    (environment.override document).2.Silent := by
  unfold Environment.override
  cases first : environment.setParallelism document with
  | error failure => exact silent
  | ok after =>
      have quiet := silent.setParallelism first
      cases second : after.setProviderKey document with
      | error failure => simpa [second] using quiet
      | ok last => simpa [second] using quiet.setProviderKey second

end Environment

namespace Settings

/-- Without variables for settings these are made of the treated values of the document. -/
theorem load_ok_iff {files : FileStore} {environment : Environment} {document : Entries}
    (found : readDocument files environment = .ok document) (tables : Document.Sectioned document)
    (silent : environment.Silent) (made : Settings) :
    (Settings.load files environment).1 = .ok made ↔
      (environment.override document).1 = none ∧
        ∃ treated, Document.treatAll (Document.given document) = .ok treated ∧
          Acceptance.settings treated = .ok made := by
  have quiet := (silent.override document).entries
  unfold Settings.load
  rw [found]
  dsimp only
  cases overridden : environment.override document with
  | mk failure after =>
      rw [overridden] at quiet
      cases failure with
      | some failure => simp
      | none =>
          dsimp only at quiet ⊢
          unfold Settings.ofSources
          rw [Document.flatten_eq tables, quiet]
          cases Document.treatAll (Document.given document) <;> simp

/-- Settings are loaded as validating the values of the document themselves gives them exactly when
the document sets its variables and each value is kept by its treatment, or when neither loading nor
validating gives any. -/
theorem load_as_written_iff {files : FileStore} {environment : Environment} {document : Entries}
    (found : readDocument files environment = .ok document) (tables : Document.Sectioned document)
    (silent : environment.Silent) :
    (∀ made, (Settings.load files environment).1 = .ok made ↔
        Acceptance.settings (Document.asWritten document) = .ok made) ↔
      (environment.override document).1 = none ∧ Document.Kept document ∨
        (∃ failure, (Settings.load files environment).1 = .error failure) ∧
          ∃ failure, Acceptance.settings (Document.asWritten document) = .error failure := by
  have loaded := load_ok_iff found tables silent
  constructor
  · intro same
    cases result : (Settings.load files environment).1 with
    | ok made =>
        -- the same settings come of the treated values and of the values themselves
        obtain ⟨overridden, treated, all, ok⟩ := (loaded made).mp result
        exact .inl ⟨overridden, Document.kept_of_settings all ok ((same made).mp result)⟩
    | error failure =>
        refine .inr ⟨⟨failure, rfl⟩, ?_⟩
        cases written : Acceptance.settings (Document.asWritten document) with
        | error other => exact ⟨other, rfl⟩
        | ok made =>
            have impossible := (same made).mpr written
            rw [result] at impossible
            cases impossible
  · rintro (⟨overridden, kept⟩ | ⟨⟨failure, failed⟩, other, refused⟩) made
    · rw [loaded, ← Document.settings_of_kept kept, overridden]
      exact ⟨And.right, fun made => ⟨rfl, made⟩⟩
    · rw [failed, refused]
      exact iff_of_false nofun nofun

/-- Files of which one is the configuration document. -/
def documentFiles (text : String) : FileStore :=
  FileStore.empty.put ["work", usualDocument] (.bytes (Utf8.encode text.toList))

/-- A document with one text, under a key in a section. -/
def textDocument (title key s : String) : Entries := [(title, .table [(key, .text s)])]

/-- The text of a document that holds one and nothing else. -/
def onlyText? : Entries → Option (String × String × String)
  | [(title, .table [(key, .text s)])] => some (title, key, s)
  | _ => none

theorem eq_textDocument {read : Except Failure Entries} {title key s : String}
    (only : read.toOption.bind onlyText? = some (title, key, s)) :
    read = .ok (textDocument title key s) := by
  cases read with
  | error failure => cases only
  | ok document =>
      change onlyText? document = some (title, key, s) at only
      unfold onlyText? at only
      split at only <;> cases only
      rfl

theorem sectioned_logging (key s : String) :
    Document.Sectioned (textDocument "logging" key s) := by
  simp [textDocument, Document.Sectioned, knownSections, sectionOf, Value.lookup]

theorem level_is_loaded :
    let files := documentFiles "[logging]\nlevel = \"debug\"\n"
    let environment := [("OPENAI_API_KEY", "none")]
    let document := textDocument "logging" "level" "debug"
    readDocument files environment = .ok document ∧ Document.Sectioned document ∧
      Environment.Silent environment ∧
      ∀ made, (Settings.load files environment).1 = .ok made ↔
        Acceptance.settings (Document.asWritten document) = .ok made := by
  intro files environment document
  have found : readDocument files environment = .ok document := eq_textDocument (by decide +kernel)
  have tables : Document.Sectioned document := sectioned_logging "level" "debug"
  have silent : Environment.Silent environment :=
    List.forall_mem_singleton.mpr Environment.silentName_providerKey
  have kept : Document.Kept document := by
    have all : Document.given document = [(⟨"level", "log_level", .text⟩, .text "debug")] := rfl
    rw [Document.Kept, all]
    exact List.forall_mem_singleton.mpr trivial
  exact ⟨found, tables, silent, (load_as_written_iff found tables silent).mpr (.inl ⟨rfl, kept⟩)⟩

/-- A text that stands for false is loaded as true. -/
theorem quoted_false_is_true :
    let files := documentFiles "[logging]\njson = \"false\"\n"
    let document := textDocument "logging" "json" "false"
    readDocument files [] = .ok document ∧ Document.Sectioned document ∧ Environment.Silent [] ∧
      (Settings.load files []).1 = .ok { logJson := true } ∧
      ¬ ∀ made, (Settings.load files []).1 = .ok made ↔
        Acceptance.settings (Document.asWritten document) = .ok made := by
  intro files document
  have found : readDocument files [] = .ok document := eq_textDocument (by decide +kernel)
  have loaded : (Settings.load files []).1 = .ok { logJson := true } := by decide +kernel
  have written : Acceptance.settings (Document.asWritten document) = .ok { logJson := false } := by
    decide +kernel
  refine ⟨found, sectioned_logging "json" "false", Environment.silent_nil, loaded, fun same => ?_⟩
  have both := (same _).mp loaded
  rw [written] at both
  cases both

end Settings

end SourceIndex
