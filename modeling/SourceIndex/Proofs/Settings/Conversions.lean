import SourceIndex.Proofs.Settings.Acceptance

/-! # Values that a conversion keeps

A value of a document may be converted before it is a setting.  It is kept when the setting takes the
converted value exactly as it would take the value itself (`Suits.keeps_iff`).  Not every value is: a
fraction is dropped, a text of a truth value counts as true, and a text is taken apart into a list. -/
set_option autoImplicit false
namespace SourceIndex

open Acceptance

namespace Document

/-- A double stands for an integer that is not too large, or for none at all. -/
def RealKept (x : Float) : Prop :=
  match Binary.parts x with
  | .finite _ magnitude exponent =>
    Binary.hasFraction magnitude exponent = false ∧ Binary.wholePart magnitude exponent < powTwo 63
  | _ => True

/-- Both readers of integers make the same of a text. -/
def NumeralKept (s : String) : Prop :=
  ∀ n, Integer.readLiteral s = .value n ↔ Integer.readLenient s = .value n

def IntegerKept : Value → Prop
  | .real x => RealKept x
  | .text s => NumeralKept s
  | _ => True

/-- No items are made of a text or of a table. -/
def ListKept : Value → Prop
  | .text _ => False
  | .table _ => False
  | _ => True

def TextKept : Value → Prop
  | .text _ => True
  | _ => False

/-- What counts as true stands for true, and what counts as false stands for false. -/
def TruthKept : Value → Prop
  | .bool _ => True
  | .integer n => n = 0 ∨ n = 1
  | .real x =>
    wholeNumber "" x = .ok 0 ∧ (x == 0.0) = true ∨ wholeNumber "" x = .ok 1 ∧ (x == 0.0) = false
  | .text s => (String.ofList (s.toList.map Char.toLower), true) ∈ truthWords
  | _ => False

/-- The treatment keeps what a value means. -/
def Treatment.Keeps : Treatment → Value → Prop
  | .asGiven, _ => True
  | .integer, v => IntegerKept v
  | .list, v => ListKept v
  | .text, v => TextKept v
  | .truth, v => TruthKept v
  | .blankIsNull, _ => True

/-- The value that is meant by one of a document: itself, unless it counts as missing. -/
def Treatment.meant : Treatment → Value → Value
  | .blankIsNull, v => blankToNull v
  | _, v => v

variable (place : String)

theorem realKept_iff (x : Float) :
    RealKept x ↔ ∀ n, Value.truncate x = .ok n ↔ wholeNumber place x = .ok n := by
  unfold RealKept Value.truncate wholeNumber
  cases Binary.parts x with
  | notANumber => simp [reject]
  | infinite negative => simp [reject]
  | finite negative magnitude exponent =>
      by_cases fraction : Binary.hasFraction magnitude exponent = true
      · simp [reject, fraction]
      · by_cases small : Binary.wholePart magnitude exponent < powTwo 63
        · simp [fraction, small]
        · simp [reject, fraction, small]

theorem numeralKept_iff (s : String) :
    NumeralKept s ↔ ∀ n, (Value.text s).toInteger = .ok n ↔ integer place (.text s) = .ok n := by
  have strict (n : Int) : (Value.text s).toInteger = .ok n ↔ Integer.readLiteral s = .value n := by
    unfold Value.toInteger
    dsimp only
    cases Integer.readLiteral s <;> simp
  have lenient (n : Int) : integer place (.text s) = .ok n ↔ Integer.readLenient s = .value n := by
    unfold integer
    dsimp only
    cases Integer.readLenient s <;> simp [reject]
  simp only [strict, lenient, NumeralKept]

theorem integerKept_iff (v : Value) :
    IntegerKept v ↔ ∀ n, v.toInteger = .ok n ↔ integer place v = .ok n := by
  cases v with
  | real x => exact realKept_iff place x
  | text s => exact numeralKept_iff place s
  | _ => simp [IntegerKept, Value.toInteger, integer, reject]

theorem textsFrom_text (texts : List String) : ∀ index,
    textsFrom place index (texts.map .text) = .ok texts := by
  induction texts with
  | nil => exact fun _ => rfl
  | cons s rest ih =>
      intro index
      rw [List.map_cons, textsFrom, ih]
      rfl

theorem listKept_iff (v : Value) : ListKept v ↔ ∀ kept,
    (∃ items, v.items = .ok items ∧ texts place (.list items) = .ok kept) ↔
      texts place v = .ok kept := by
  have taken (given : List String) :
      ¬ ∀ kept, (∃ items, Except.ok (given.map Value.text) = (.ok items : Except Failure _) ∧
          texts place (.list items) = .ok kept) ↔ reject place "list_type" = .ok kept := by
    intro same
    have impossible := (same given).mp ⟨_, rfl, textsFrom_text place given 0⟩
    cases impossible
  cases v with
  | text s =>
      have chars : (s.toList.map fun c => Value.text c.toString) =
          (s.toList.map Char.toString).map .text := (List.map_map ..).symm
      simp only [ListKept, Value.items, chars, false_iff]
      exact taken _
  | table entries =>
      have keys : (entries.map fun entry => Value.text entry.1) =
          (entries.map Prod.fst).map .text := (List.map_map ..).symm
      simp only [ListKept, Value.items, keys, false_iff]
      exact taken _
  | _ => simp [ListKept, Value.items, texts, reject]

theorem textKept_iff (v : Value) : TextKept v ↔ ∀ kept, v.plain = kept ↔ text place v = .ok kept := by
  cases v <;> simp [TextKept, Value.plain, text, reject]

theorem zeroOrOne_ok_iff (n : Int) (b : Bool) :
    zeroOrOne place n = .ok b ↔ n = 0 ∧ b = false ∨ n = 1 ∧ b = true := by
  unfold zeroOrOne
  split
  · rename_i zero
    simp [zero, eq_comm]
  · rename_i zero
    split
    · rename_i one
      simp [one, eq_comm]
    · rename_i one
      simp [reject, zero, one]

theorem wholeNumber_ok_iff (other : String) (x : Float) (n : Int) :
    wholeNumber place x = .ok n ↔ wholeNumber other x = .ok n := by
  unfold wholeNumber
  split
  · simp [reject]
  · simp [reject]
  · dsimp only
    split
    · simp [reject]
    · split
      · rfl
      · simp [reject]

theorem truth_real_iff (x : Float) (b : Bool) : truth place (.real x) = .ok b ↔
    wholeNumber "" x = .ok 0 ∧ b = false ∨ wholeNumber "" x = .ok 1 ∧ b = true := by
  have anywhere := wholeNumber_ok_iff place "" x
  cases whole : wholeNumber place x with
  | error faults =>
      have none (n : Int) : wholeNumber "" x ≠ .ok n := by
        rw [Ne, ← anywhere, whole]
        nofun
      simp [truth, whole, none, reject]
  | ok n =>
      rw [(anywhere n).mp whole]
      simp only [truth, whole, zeroOrOne_ok_iff, Except.ok.injEq]

theorem truth_text_iff (s : String) (b : Bool) : truth place (.text s) = .ok b ↔
    (String.ofList (s.toList.map Char.toLower), b) ∈ truthWords := by
  have distinct : ∀ word ∈ truthWords, ∀ other ∈ truthWords, word.1 = other.1 → word = other := by
    decide
  unfold truth
  dsimp only
  cases found : truthWords.find? fun word => word.1 == String.ofList (s.toList.map Char.toLower) with
  | none =>
      have absent : (String.ofList (s.toList.map Char.toLower), b) ∉ truthWords := by
        intro among
        simpa using List.find?_eq_none.mp found _ among
      simp [reject, absent]
  | some word =>
      have among := List.mem_of_find?_eq_some found
      have same : word.1 = String.ofList (s.toList.map Char.toLower) := by
        simpa using List.find?_some found
      constructor
      · intro taken
        rwa [← same, ← Except.ok.inj taken]
      · intro other
        rw [distinct word among _ other same]

/-- The empty text is no word for a truth value. -/
theorem isTrue_of_mem_truthWords {s : String} {b : Bool}
    (word : (String.ofList (s.toList.map Char.toLower), b) ∈ truthWords) :
    (Value.text s).isTrue = true := by
  by_cases empty : s = ""
  · subst empty
    simp [truthWords] at word
  · simpa [Value.isTrue] using empty

theorem truthKept_iff (v : Value) : TruthKept v ↔ ∀ b, v.isTrue = b ↔ truth place v = .ok b := by
  have itself : (∀ b, v.isTrue = b ↔ truth place v = .ok b) ↔ truth place v = .ok v.isTrue := by
    refine ⟨fun same => (same _).mp rfl, fun accepted b => ?_⟩
    rw [accepted, Except.ok.injEq]
  rw [itself]
  cases v with
  | integer n =>
      rw [truth, zeroOrOne_ok_iff]
      simp only [TruthKept, Value.isTrue]
      by_cases zero : n = 0 <;> simp [zero]
  | real x =>
      rw [truth_real_iff]
      simp [TruthKept, Value.isTrue]
  | text s =>
      rw [truth_text_iff]
      refine ⟨fun word => (isTrue_of_mem_truthWords word).symm ▸ word, fun word => ?_⟩
      rwa [isTrue_of_mem_truthWords word] at word
  | bool b => simp [TruthKept, truth, Value.isTrue]
  | _ => simp [TruthKept, truth, reject]

/-! ## Treatments and settings -/

/-- The treatment makes values of the kind that the setting accepts. -/
inductive Suits : Treatment → Setting → Prop
  | asGiven {setting} : Suits .asGiven setting
  | blankIsNull {setting} : Suits .blankIsNull setting
  | integer {name read assign assigned} :
    Suits .integer ⟨Int, name, Acceptance.integer, read, assign, assigned, told_integer⟩
  | list {name read assign assigned} :
    Suits .list ⟨List String, name, texts, read, assign, assigned, told_texts⟩
  | text {name read assign assigned} :
    Suits .text ⟨String, name, Acceptance.text, read, assign, assigned, told_text⟩
  | truth {name read assign assigned} :
    Suits .truth ⟨Bool, name, Acceptance.truth, read, assign, assigned, told_truth⟩

/-- What the setting takes of a value that is treated first. -/
def Takes (treatment : Treatment) (setting : Setting) (v : Value) (kept : setting.Kept) : Prop :=
  ∃ treated, treatment.apply v = .ok treated ∧ setting.accept setting.name treated = .ok kept

/-- What the setting takes of the value itself. -/
def TakesMeant (treatment : Treatment) (setting : Setting) (v : Value) (kept : setting.Kept) : Prop :=
  setting.accept setting.name (treatment.meant v) = .ok kept

variable {treatment : Treatment} {setting : Setting} {v : Value}

theorem takes_of_apply {treated : Value} (applied : treatment.apply v = .ok treated)
    (kept : setting.Kept) :
    Takes treatment setting v kept ↔ setting.accept setting.name treated = .ok kept := by
  simp [Takes, applied]

/-- A treatment keeps a value exactly when the setting takes the same of it, treated or not. -/
theorem Suits.keeps_iff (suits : Suits treatment setting) (v : Value) : treatment.Keeps v ↔
    ∀ kept, Takes treatment setting v kept ↔ TakesMeant treatment setting v kept := by
  cases suits with
  | asGiven => exact iff_of_true trivial fun kept => takes_of_apply rfl kept
  | blankIsNull => exact iff_of_true trivial fun kept => takes_of_apply rfl kept
  | @integer name =>
      refine (integerKept_iff name v).trans (forall_congr' fun n => iff_congr ?_ Iff.rfl)
      cases made : v.toInteger <;> simp [Takes, Treatment.apply, made, Except.map, Acceptance.integer]
  | @list name =>
      refine (listKept_iff name v).trans (forall_congr' fun kept => iff_congr ?_ Iff.rfl)
      cases made : v.items <;> simp [Takes, Treatment.apply, made, Except.map]
  | @text name =>
      refine (textKept_iff name v).trans (forall_congr' fun kept => iff_congr ?_ Iff.rfl)
      simp [Takes, Treatment.apply, Acceptance.text]
  | @truth name =>
      refine (truthKept_iff name v).trans (forall_congr' fun b => iff_congr ?_ Iff.rfl)
      simp [Takes, Treatment.apply, Acceptance.truth]

/-- A setting that takes the same of a value, treated or not, shows that the treatment keeps it. -/
theorem Suits.keeps_of_takes (suits : Suits treatment setting) {kept : setting.Kept}
    (takes : Takes treatment setting v kept) (meant : TakesMeant treatment setting v kept) :
    treatment.Keeps v := by
  obtain ⟨treated, applied, accepted⟩ := takes
  refine (suits.keeps_iff v).mpr fun other => ?_
  rw [takes_of_apply applied, accepted, TakesMeant, meant]

end Document

end SourceIndex
