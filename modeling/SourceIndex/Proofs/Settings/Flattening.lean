import Mathlib.Data.List.Forall2
import Mathlib.Data.List.Nodup
import SourceIndex.Proofs.Settings.Conversions
import SourceIndex.Proofs.Table.Entries

/-! # The settings that a document gives

A document whose sections are tables gives a value for each known key that it has, and all of them are
treated (`flatten_eq`).  The settings that are made of the treated values are those that are made of the
values themselves as long as each value is kept (`settings_of_kept`), and only then
(`kept_of_settings`). -/
set_option autoImplicit false
namespace SourceIndex

open Acceptance

namespace Document

/-- Values that stand under known keys. -/
abbrev Given := List (KnownKey × Value)

/-- The sections that are looked into are tables, as far as they are there. -/
def Sectioned (document : Entries) : Prop :=
  ∀ known ∈ knownSections, ∃ entries, sectionOf known.name document = .table entries

def valueOf (content : Value) (known : KnownKey) : Option (KnownKey × Value) :=
  match content with
  | .table entries => (Value.lookup known.key entries).map (known, ·)
  | _ => none

def givenIn (document : Entries) (known : KnownSection) : Given :=
  known.keys.filterMap (valueOf (sectionOf known.name document))

/-- The values that a document gives for known keys, as they are written there. -/
def given (document : Entries) : Given := knownSections.flatMap (givenIn document)

/-- The settings that a document gives, each with the value that is meant by the written one. -/
def asWritten (document : Entries) : Entries :=
  (given document).map fun entry => (entry.1.setting, entry.1.treatment.meant entry.2)

/-- All values treated, in order; the first that cannot be ends it. -/
def treatAll : Given → Except Failure Entries
  | [] => .ok []
  | (known, v) :: rest =>
    match known.treatment.apply v with
    | .error failure => .error failure
    | .ok treated => (treatAll rest).map ((known.setting, treated) :: ·)

theorem treatAll_append (front back : Given) :
    treatAll (front ++ back) = (treatAll front).bind fun found => (treatAll back).map (found ++ ·) := by
  induction front with
  | nil => cases behind : treatAll back <;> simp [treatAll, behind, Except.bind, Except.map]
  | cons entry rest ih =>
      obtain ⟨known, v⟩ := entry
      rw [List.cons_append, treatAll, treatAll, ih]
      cases known.treatment.apply v with
      | error failure => rfl
      | ok treated =>
          cases treatAll rest with
          | error failure => rfl
          | ok found => cases treatAll back <;> rfl

theorem readKeys_eq (entries : Entries) (keys : List KnownKey) :
    readKeys (.table entries) keys = treatAll (keys.filterMap (valueOf (.table entries))) := by
  induction keys with
  | nil => rfl
  | cons known rest ih =>
      rw [readKeys, entry?, List.filterMap_cons, valueOf]
      cases Value.lookup known.key entries with
      | none => exact ih
      | some v => cases applied : known.treatment.apply v <;> simp [treatAll, applied, ih]

theorem readSections_eq (document : Entries) (sections : List KnownSection)
    (tables : ∀ known ∈ sections, ∃ entries, sectionOf known.name document = .table entries) :
    readSections document sections = treatAll (sections.flatMap (givenIn document)) := by
  induction sections with
  | nil => rfl
  | cons known rest ih =>
      obtain ⟨⟨entries, table⟩, behind⟩ := List.forall_mem_cons.mp tables
      rw [List.flatMap_cons, treatAll_append, readSections, ih behind, givenIn, table]
      split
      · -- a section that counts as false is empty, and gives nothing
        rename_i skipped
        have empty : entries = [] := by simpa [Value.isTrue] using (Bool.and_eq_true_iff.mp skipped).2
        have nothing : known.keys.filterMap (valueOf (.table [])) = [] := by
          rw [List.filterMap_eq_nil_iff]
          exact fun _ _ => rfl
        rw [empty, nothing]
        cases behind : treatAll (rest.flatMap (givenIn document)) <;>
          simp [treatAll, Except.bind, Except.map]
      · rw [readKeys_eq]
        cases treatAll (known.keys.filterMap (valueOf (.table entries))) <;> rfl

theorem flatten_eq {document : Entries} (tables : Sectioned document) :
    flatten document = treatAll (given document) := readSections_eq document knownSections tables

/-- What the values become: each stands under its setting, in order. -/
theorem treated_of_treatAll {values : Given} : ∀ {entries : Entries}, treatAll values = .ok entries →
    entries.map Prod.fst = values.map (·.1.setting) ∧
      ∀ entry ∈ values, ∃ treated, entry.1.treatment.apply entry.2 = .ok treated ∧
        (entry.1.setting, treated) ∈ entries := by
  induction values with
  | nil =>
      intro entries all
      cases all
      exact ⟨rfl, nofun⟩
  | cons entry rest ih =>
      intro entries all
      rw [treatAll] at all
      cases applied : entry.1.treatment.apply entry.2 with
      | error failure => simp [applied] at all
      | ok treated =>
          cases behind : treatAll rest with
          | error failure => simp [applied, behind, Except.map] at all
          | ok others =>
              simp only [applied, behind, Except.map, Except.ok.injEq] at all
              subst all
              obtain ⟨names, each⟩ := ih behind
              refine ⟨congrArg (entry.1.setting :: ·) names, ?_⟩
              refine List.forall_mem_cons.mpr ⟨⟨treated, applied, List.mem_cons_self⟩, ?_⟩
              intro later among
              obtain ⟨made, becomes, there⟩ := each later among
              exact ⟨made, becomes, List.mem_cons_of_mem _ there⟩

theorem treatAll_ok {values : Given}
    (each : ∀ entry ∈ values, ∃ treated, entry.1.treatment.apply entry.2 = .ok treated) :
    ∃ entries, treatAll values = .ok entries := by
  induction values with
  | nil => exact ⟨_, rfl⟩
  | cons entry rest ih =>
      obtain ⟨⟨treated, applied⟩, behind⟩ := List.forall_mem_cons.mp each
      obtain ⟨others, all⟩ := ih behind
      exact ⟨_, by rw [treatAll, applied, all]; rfl⟩

/-! ## Each known key has its setting -/

def knownKeys : List KnownKey := knownSections.flatMap (·.keys)

/-- The known keys are those of the settings, in the same order. -/
theorem suits_known :
    List.Forall₂ (fun key setting => key.setting = setting.name ∧ Suits key.treatment setting)
      knownKeys known := by
  repeat' constructor

theorem nodup_knownKeys : (knownKeys.map (·.setting)).Nodup := by decide

theorem exists_setting {key : KnownKey} (member : key ∈ knownKeys) :
    ∃ setting ∈ known, key.setting = setting.name ∧ Suits key.treatment setting := by
  obtain ⟨place, inside, rfl⟩ := List.getElem_of_mem member
  have within : place < known.length := suits_known.length_eq ▸ inside
  exact ⟨known[place], List.getElem_mem within, suits_known.get inside within⟩

theorem suits_of_setting {key : KnownKey} {setting : Setting} (member : key ∈ knownKeys)
    (among : setting ∈ known) (name : key.setting = setting.name) : Suits key.treatment setting := by
  obtain ⟨other, there, same, suits⟩ := exists_setting member
  have distinct : (known.map Setting.name).Nodup := nodup_knownKeys
  rwa [List.inj_on_of_nodup_map distinct among there (name.symm.trans same)]

theorem sublist_valueOf (content : Value) (keys : List KnownKey) :
    ((keys.filterMap (valueOf content)).map Prod.fst).Sublist keys := by
  induction keys with
  | nil => exact .slnil
  | cons key rest ih =>
      rw [List.filterMap_cons]
      cases found : valueOf content key with
      | none => exact ih.cons key
      | some entry =>
          have same : entry.1 = key := by
            unfold valueOf at found
            split at found
            · obtain ⟨v, _, rfl⟩ := Option.map_eq_some_iff.mp found
              rfl
            · cases found
          rw [List.map_cons, same]
          exact ih.cons_cons key

theorem sublist_given (document : Entries) : ((given document).map Prod.fst).Sublist knownKeys := by
  unfold given knownKeys
  induction knownSections with
  | nil => exact .slnil
  | cons known rest ih =>
      rw [List.flatMap_cons, List.flatMap_cons, List.map_append]
      exact (sublist_valueOf _ known.keys).append ih

theorem known_of_given {document : Entries} {entry : KnownKey × Value}
    (among : entry ∈ given document) : entry.1 ∈ knownKeys :=
  (sublist_given document).subset (List.mem_map_of_mem among)

theorem nodup_given (document : Entries) : ((given document).map (·.1.setting)).Nodup := by
  have settings := (sublist_given document).map KnownKey.setting
  rw [List.map_map] at settings
  exact settings.nodup nodup_knownKeys

/-! ## The settings with treated values and with the values themselves -/

section
variable {document : Entries} {setting : Setting} {made : Settings}

theorem holds_of_absent {entries : Entries} (absent : setting.name ∉ entries.map Prod.fst) :
    setting.Holds entries made ↔ setting.read made = setting.read {} := by
  rw [Setting.Holds, Value.lookup_of_not_mem absent]

theorem holds_of_mem {entries : Entries} (distinct : (entries.map Prod.fst).Nodup) {v : Value}
    (there : (setting.name, v) ∈ entries) :
    setting.Holds entries made ↔ setting.accept setting.name v = .ok (setting.read made) := by
  rw [Setting.Holds, Value.lookup_of_mem distinct there]

theorem names_asWritten (document : Entries) :
    (asWritten document).map Prod.fst = (given document).map (·.1.setting) := List.map_map ..

theorem holds_asWritten {entry : KnownKey × Value} (among : entry ∈ given document)
    (name : entry.1.setting = setting.name) :
    setting.Holds (asWritten document) made ↔
      TakesMeant entry.1.treatment setting entry.2 (setting.read made) := by
  have distinct : ((asWritten document).map Prod.fst).Nodup :=
    names_asWritten document ▸ nodup_given document
  have there : (setting.name, entry.1.treatment.meant entry.2) ∈ asWritten document :=
    name ▸ List.mem_map_of_mem among
  exact holds_of_mem distinct there

variable {treated : Entries} (all : treatAll (given document) = .ok treated)
include all

theorem holds_treated {entry : KnownKey × Value} (among : entry ∈ given document)
    (name : entry.1.setting = setting.name) :
    setting.Holds treated made ↔ Takes entry.1.treatment setting entry.2 (setting.read made) := by
  obtain ⟨names, each⟩ := treated_of_treatAll all
  obtain ⟨v, applied, there⟩ := each entry among
  have distinct : (treated.map Prod.fst).Nodup := names ▸ nodup_given document
  rw [holds_of_mem distinct (name ▸ there), takes_of_apply applied]

/-- A setting that no value is given for is the same whatever is made of the others. -/
theorem holds_treated_of_absent (absent : ∀ entry ∈ given document, entry.1.setting ≠ setting.name) :
    setting.Holds treated made ↔ setting.Holds (asWritten document) made := by
  have missing : setting.name ∉ (given document).map (·.1.setting) := by
    intro there
    obtain ⟨entry, among, name⟩ := List.mem_map.mp there
    exact absent entry among name
  rw [holds_of_absent ((treated_of_treatAll all).1 ▸ missing),
    holds_of_absent (names_asWritten document ▸ missing)]

end

/-- Every value that is given is kept. -/
def Kept (document : Entries) : Prop := ∀ entry ∈ given document, entry.1.treatment.Keeps entry.2

theorem holds_treated_iff {document treated : Entries} (kept : Kept document)
    (all : treatAll (given document) = .ok treated) {setting : Setting} (among : setting ∈ known)
    (made : Settings) : setting.Holds treated made ↔ setting.Holds (asWritten document) made := by
  by_cases there : ∃ entry ∈ given document, entry.1.setting = setting.name
  · obtain ⟨entry, given, name⟩ := there
    have suits := suits_of_setting (known_of_given given) among name
    rw [holds_treated all given name, holds_asWritten given name]
    exact (suits.keeps_iff entry.2).mp (kept entry given) (setting.read made)
  · exact holds_treated_of_absent all fun entry given name => there ⟨entry, given, name⟩

/-- Where every value is kept, the document gives the settings that the values themselves give. -/
theorem settings_of_kept {document : Entries} (kept : Kept document) (made : Settings) :
    (∃ treated, treatAll (given document) = .ok treated ∧ settings treated = .ok made) ↔
      settings (asWritten document) = .ok made := by
  simp only [settings_ok_iff]
  constructor
  · rintro ⟨treated, all, holds⟩ setting among
    exact (holds_treated_iff kept all among made).mp (holds setting among)
  · intro holds
    -- a setting that takes the value itself takes something of the treated one, so there is one
    have each : ∀ entry ∈ given document,
        ∃ v, entry.1.treatment.apply entry.2 = .ok v := by
      intro entry there
      obtain ⟨setting, among, name, suits⟩ := exists_setting (known_of_given there)
      have meant := (holds_asWritten there name).mp (holds setting among)
      obtain ⟨v, applied, _⟩ :=
        ((suits.keeps_iff entry.2).mp (kept entry there) (setting.read made)).mpr meant
      exact ⟨v, applied⟩
    obtain ⟨treated, all⟩ := treatAll_ok each
    exact ⟨treated, all, fun setting among =>
      (holds_treated_iff kept all among made).mpr (holds setting among)⟩

/-- Settings that come of the treated values and of the values themselves show that all are kept. -/
theorem kept_of_settings {document treated : Entries} {made : Settings}
    (all : treatAll (given document) = .ok treated) (ok : settings treated = .ok made)
    (same : settings (asWritten document) = .ok made) : Kept document := by
  rw [settings_ok_iff] at ok same
  intro entry there
  obtain ⟨setting, among, name, suits⟩ := exists_setting (known_of_given there)
  exact suits.keeps_of_takes ((holds_treated all there name).mp (ok setting among))
    ((holds_asWritten there name).mp (same setting among))

end Document

end SourceIndex
