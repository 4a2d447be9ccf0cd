import SourceIndex.Text.Blank

/-! # Counting words in parts of a text

Words are counted in one pass, and a part of a text may begin inside a word.  The count of a whole
is that of its parts, less one at each cut through a word (`wordCount_add`): so it never falls when
the text grows (`wordCount_le_append_left`), and cutting a text adds at most one word
(`wordCount_add_le`). -/
set_option autoImplicit false
namespace SourceIndex.Text

namespace WordScan

/-- A scan that has counted so many words before its own. -/
def behind (scan : WordScan) (words : Nat) : WordScan := ⟨words + scan.begun, scan.inside⟩

theorem step_behind (scan : WordScan) (words : Nat) (c : Char) :
    (scan.behind words).step c = (scan.step c).behind words := by
  obtain ⟨begun, inside⟩ := scan
  simp only [step, behind]
  cases isBlank c <;> cases inside <;> simp [Nat.add_assoc]

theorem foldl_behind (text : List Char) : ∀ (scan : WordScan) (words : Nat),
    text.foldl step (scan.behind words) = (text.foldl step scan).behind words := by
  induction text with
  | nil => intro scan words; rfl
  | cons c rest ih =>
      intro scan words
      rw [List.foldl_cons, List.foldl_cons, step_behind, ih]

end WordScan

/-- The words that begin in a text, where `inside` tells whether a word is open in front of it. -/
def wordsFrom (inside : Bool) (text : List Char) : Nat :=
  (text.foldl WordScan.step ⟨0, inside⟩).begun

/-- Whether a word is open behind a text. -/
def openBehind (inside : Bool) (text : List Char) : Bool :=
  (text.foldl WordScan.step ⟨0, inside⟩).inside

theorem wordsFrom_append (inside : Bool) (front back : List Char) :
    wordsFrom inside (front ++ back) =
      wordsFrom inside front + wordsFrom (openBehind inside front) back := by
  have reached : front.foldl WordScan.step ⟨0, inside⟩ =
      WordScan.behind ⟨0, openBehind inside front⟩ (wordsFrom inside front) := rfl
  rw [wordsFrom, List.foldl_append, reached, WordScan.foldl_behind]
  rfl

theorem wordsFrom_cons (inside : Bool) (c : Char) (rest : List Char) :
    wordsFrom inside (c :: rest) =
      if isBlank c then wordsFrom false rest
      else if inside then wordsFrom true rest else wordsFrom true rest + 1 := by
  have first := wordsFrom_append inside [c] rest
  rw [List.singleton_append] at first
  rw [first]
  simp only [wordsFrom, openBehind, List.foldl_cons, List.foldl_nil, WordScan.step]
  cases isBlank c <;> cases inside <;> simp [Nat.add_comm]

/-- A text has no word exactly if all of it is blank. -/
theorem wordCount_eq_zero_iff (text : List Char) : wordCount text = 0 ↔ allBlank text = true := by
  change wordsFrom false text = 0 ↔ _
  induction text with
  | nil => decide
  | cons c rest ih =>
      rw [wordsFrom_cons]
      simp only [allBlank] at ih
      cases blank : isBlank c <;> simp [allBlank, blank, ih]

theorem wordsFrom_le_length (text : List Char) :
    ∀ inside, wordsFrom inside text ≤ text.length := by
  induction text with
  | nil => exact fun _ => Nat.le_refl 0
  | cons c rest ih =>
      intro inside
      have closed := ih false
      have opened := ih true
      rw [wordsFrom_cons, List.length_cons]
      split
      · omega
      · split <;> omega

theorem wordCount_le_length (text : List Char) : wordCount text ≤ text.length :=
  wordsFrom_le_length text false

/-! ## The ends of a text -/

/-- The first character belongs to a word. -/
def startsInWord (text : List Char) : Bool := text.head?.any fun c => !isBlank c

/-- The last character belongs to a word. -/
def endsInWord (text : List Char) : Bool := text.getLast?.any fun c => !isBlank c

theorem openBehind_eq_endsInWord (text : List Char) : openBehind false text = endsInWord text := by
  rcases List.eq_nil_or_concat text with rfl | ⟨front, last, rfl⟩
  · rfl
  · rw [List.concat_eq_append, openBehind, endsInWord, List.foldl_append, List.getLast?_concat,
      Option.any_some, List.foldl_cons, List.foldl_nil, WordScan.step]
    cases isBlank last with
    | true => rfl
    | false =>
        rw [if_neg Bool.false_ne_true]
        split
        · assumption
        · rfl

/-- A word that is open in front takes one word away from a text, the one that goes on there. -/
theorem wordsFrom_false (text : List Char) :
    wordsFrom false text = wordsFrom true text + if startsInWord text then 1 else 0 := by
  cases text with
  | nil => rfl
  | cons c rest =>
      rw [wordsFrom_cons, wordsFrom_cons, startsInWord, List.head?_cons, Option.any_some]
      cases isBlank c <;> simp

theorem wordCount_pos_of_endsInWord {text : List Char} (ends : endsInWord text = true) :
    0 < wordCount text := by
  apply Nat.pos_of_ne_zero
  intro none
  have blank := (wordCount_eq_zero_iff text).mp none
  obtain ⟨last, found, word⟩ := (Option.any_eq_true _ _).mp ends
  have lastBlank := List.all_eq_true.mp blank last (List.mem_of_getLast? found)
  rw [lastBlank] at word
  exact absurd word (by decide)

/-! ## The count of a whole and of its parts -/

theorem wordCount_append (front back : List Char) :
    wordCount (front ++ back) = wordCount front + wordsFrom (endsInWord front) back := by
  rw [← openBehind_eq_endsInWord]
  exact wordsFrom_append false front back

/-- A cut adds one word if it falls inside of one, and none elsewhere. -/
theorem wordCount_add (front back : List Char) :
    wordCount front + wordCount back =
      wordCount (front ++ back) + if endsInWord front && startsInWord back then 1 else 0 := by
  have closed : wordCount back = wordsFrom false back := rfl
  have opened := wordsFrom_false back
  rw [wordCount_append, closed]
  cases endsInWord front with
  | false => rfl
  | true => rw [opened, Bool.true_and, Nat.add_assoc]

theorem wordCount_append_le (front back : List Char) :
    wordCount (front ++ back) ≤ wordCount front + wordCount back := by
  rw [wordCount_add]
  exact Nat.le_add_right _ _

theorem wordCount_add_le (front back : List Char) :
    wordCount front + wordCount back ≤ wordCount (front ++ back) + 1 := by
  rw [wordCount_add]
  split <;> omega

theorem wordCount_le_append_left (front back : List Char) :
    wordCount front ≤ wordCount (front ++ back) := by
  rw [wordCount_append]
  exact Nat.le_add_right _ _

theorem wordCount_le_append_right (front back : List Char) :
    wordCount back ≤ wordCount (front ++ back) := by
  have cut := wordCount_add front back
  cases ends : endsInWord front with
  | false =>
      rw [ends, Bool.false_and, if_neg Bool.false_ne_true] at cut
      omega
  | true =>
      -- the word that goes on behind the cut has been counted in front of it
      have begun := wordCount_pos_of_endsInWord ends
      split at cut <;> omega

end SourceIndex.Text
