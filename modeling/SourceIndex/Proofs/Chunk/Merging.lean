import SourceIndex.Chunk

/-! # Joining neighbours

Joining goes once over chunks that stand in order.  It keeps them in order and gives up no span
that one of them covers.  A place that lies between them is covered afterwards where the chunk open
in front of it fits together with the one behind it, and nowhere else. -/
set_option autoImplicit false
namespace SourceIndex

namespace Chunk

/-- The span lies in the chunk. -/
def Covers (chunk : Chunk) (start stop : Nat) : Prop := chunk.start ≤ start ∧ stop ≤ chunk.stop

instance (chunk : Chunk) (start stop : Nat) : Decidable (chunk.Covers start stop) :=
  inferInstanceAs (Decidable (_ ∧ _))

/-- The chunks stand one behind the other between two offsets. -/
def InOrder (low high : Nat) : List Chunk → Prop
  | [] => low ≤ high
  | chunk :: rest => low ≤ chunk.start ∧ chunk.start ≤ chunk.stop ∧ InOrder chunk.stop high rest

namespace InOrder

theorem le {high : Nat} : ∀ {low : Nat} {chunks : List Chunk}, InOrder low high chunks → low ≤ high
  | _, [], order => order
  | _, _ :: _, order => Nat.le_trans order.1 (Nat.le_trans order.2.1 order.2.2.le)

theorem from_lower {lower low high : Nat} {chunks : List Chunk} (order : InOrder low high chunks)
    (below : lower ≤ low) : InOrder lower high chunks := by
  cases chunks with
  | nil => exact Nat.le_trans below order
  | cons chunk rest => exact ⟨Nat.le_trans below order.1, order.2⟩

theorem append {middle high : Nat} {back : List Chunk} (second : InOrder middle high back) :
    ∀ {low : Nat} {front : List Chunk}, InOrder low middle front → InOrder low high (front ++ back)
  | _, [], first => second.from_lower first
  | _, _ :: _, first => ⟨first.1, first.2.1, append second first.2.2⟩

theorem to_higher {low high higher : Nat} {chunks : List Chunk} (order : InOrder low high chunks)
    (above : high ≤ higher) : InOrder low higher chunks :=
  List.append_nil chunks ▸ append (show InOrder high higher [] from above) order

theorem split {high : Nat} {back : List Chunk} :
    ∀ {low : Nat} {front : List Chunk}, InOrder low high (front ++ back) →
      ∃ middle, InOrder low middle front ∧ InOrder middle high back
  | low, [], order => ⟨low, Nat.le_refl low, order⟩
  | _, _ :: _, order =>
      have ⟨middle, first, second⟩ := split order.2.2
      ⟨middle, ⟨order.1, order.2.1, first⟩, second⟩

theorem bounds {high : Nat} {chunk : Chunk} : ∀ {low : Nat} {chunks : List Chunk},
    InOrder low high chunks → chunk ∈ chunks →
      low ≤ chunk.start ∧ chunk.start ≤ chunk.stop ∧ chunk.stop ≤ high := by
  intro low chunks
  induction chunks generalizing low with
  | nil => intro _ member; cases member
  | cons first rest ih =>
      intro order member
      rcases List.mem_cons.mp member with rfl | later
      · exact ⟨order.1, order.2.1, order.2.2.le⟩
      · have inner := ih order.2.2 later
        exact ⟨Nat.le_trans (Nat.le_trans order.1 order.2.1) inner.1, inner.2⟩

theorem pairwise {high : Nat} : ∀ {low : Nat} {chunks : List Chunk}, InOrder low high chunks →
    chunks.Pairwise fun left right => left.stop ≤ right.start
  | _, [], _ => List.Pairwise.nil
  | _, _ :: _, order =>
      List.Pairwise.cons (fun _ later => (order.2.2.bounds later).1) order.2.2.pairwise

/-- Chunks in order share no byte: only one of them covers a span that is not empty. -/
theorem countP_covers {start stop high : Nat} (nonempty : start < stop) :
    ∀ {low : Nat} {chunks : List Chunk}, InOrder low high chunks →
      (∃ chunk ∈ chunks, chunk.Covers start stop) →
      chunks.countP (fun chunk => decide (chunk.Covers start stop)) = 1 := by
  intro low chunks
  induction chunks generalizing low with
  | nil => rintro _ ⟨chunk, member, _⟩; cases member
  | cons first rest ih =>
      rintro order ⟨chunk, member, covers⟩
      by_cases here : first.Covers start stop
      · have nowhere : rest.countP (fun chunk => decide (chunk.Covers start stop)) = 0 := by
          apply List.countP_eq_zero.mpr
          intro later among taken
          have starts := (of_decide_eq_true taken).1
          have ends := here.2
          have behind := (order.2.2.bounds among).1
          omega
        rw [List.countP_cons, nowhere]
        simp [here]
      · have later : chunk ∈ rest := by
          rcases List.mem_cons.mp member with rfl | later
          · exact absurd covers here
          · exact later
        rw [List.countP_cons, ih order.2.2 ⟨chunk, later, covers⟩]
        simp [here]

end InOrder

end Chunk

namespace Splitter

open Chunk (InOrder)

variable (splitter : Splitter) (code : List UInt8)

theorem mergeInto_inOrder {high : Nat} (rest : List Chunk) : ∀ {low : Nat} {current : Chunk},
    InOrder low high (current :: rest) → InOrder low high (splitter.mergeInto code current rest) := by
  induction rest with
  | nil => intro low current order; exact order
  | cons piece rest ih =>
      intro low current order
      obtain ⟨before, forward, between, ahead, after⟩ := order
      rw [mergeInto]
      split
      · apply ih
        refine ⟨before, ?_, after⟩
        exact Nat.le_trans forward (Nat.le_trans between ahead)
      · exact ⟨before, forward, ih ⟨between, ahead, after⟩⟩

theorem merge_inOrder {low high : Nat} {pieces : List Chunk} (order : InOrder low high pieces) :
    InOrder low high (splitter.merge code pieces) := by
  cases pieces with
  | nil => exact order
  | cons piece rest => exact splitter.mergeInto_inOrder code rest order

theorem join_inOrder {low high : Nat} {current piece : Chunk} {rest : List Chunk}
    (order : InOrder low high (current :: piece :: rest)) :
    InOrder low high (splitter.join code current piece :: rest) := by
  obtain ⟨before, forward, between, ahead, after⟩ := order
  exact ⟨before, Nat.le_trans forward (Nat.le_trans between ahead), after⟩

/-- No piece is given up. -/
theorem mergeInto_covers {high : Nat} (rest : List Chunk) : ∀ {low : Nat} {current piece : Chunk},
    InOrder low high (current :: rest) → piece ∈ current :: rest →
      ∃ chunk ∈ splitter.mergeInto code current rest, chunk.Covers piece.start piece.stop := by
  induction rest with
  | nil =>
      intro low current piece _ member
      have same := List.mem_singleton.mp member
      exact ⟨current, by simp [mergeInto], same ▸ ⟨Nat.le_refl _, Nat.le_refl _⟩⟩
  | cons next rest ih =>
      intro low current piece order member
      have joined := splitter.join_inOrder code order
      obtain ⟨_, forward, between, ahead, after⟩ := order
      rw [mergeInto]
      split
      · obtain ⟨chunk, among, starts, ends⟩ := ih joined (List.mem_cons_self ..)
        rcases List.mem_cons.mp member with rfl | member
        · exact ⟨chunk, among, starts, Nat.le_trans (Nat.le_trans between ahead) ends⟩
        · rcases List.mem_cons.mp member with rfl | later
          · exact ⟨chunk, among, Nat.le_trans starts (Nat.le_trans forward between), ends⟩
          · exact ih joined (List.mem_cons_of_mem _ later)
      · rcases List.mem_cons.mp member with rfl | later
        · exact ⟨piece, List.mem_cons_self .., Nat.le_refl _, Nat.le_refl _⟩
        · obtain ⟨chunk, among, covers⟩ := ih ⟨between, ahead, after⟩ later
          exact ⟨chunk, List.mem_cons_of_mem _ among, covers⟩

theorem merge_covers {low high : Nat} {pieces : List Chunk} {piece : Chunk}
    (order : InOrder low high pieces) (member : piece ∈ pieces) :
    ∃ chunk ∈ splitter.merge code pieces, chunk.Covers piece.start piece.stop := by
  cases pieces with
  | nil => cases member
  | cons first rest => exact splitter.mergeInto_covers code rest order member

/-- What holds of the pieces and of every two chunks in order that fit together holds of all that
joining gives. -/
theorem mergeInto_forall {P : Chunk → Prop}
    (joins : ∀ left right, P left → P right → left.start ≤ left.stop → left.stop ≤ right.start →
      right.start ≤ right.stop → splitter.sizeOf code left.start right.stop ≤ splitter.budget →
      P (splitter.join code left right))
    {high : Nat} (rest : List Chunk) : ∀ {low : Nat} {current : Chunk},
    InOrder low high (current :: rest) → (∀ piece ∈ current :: rest, P piece) →
      ∀ chunk ∈ splitter.mergeInto code current rest, P chunk := by
  induction rest with
  | nil =>
      intro low current _ holds chunk member
      exact holds chunk (by simpa [mergeInto] using member)
  | cons next rest ih =>
      intro low current order holds
      have joined := splitter.join_inOrder code order
      obtain ⟨_, forward, between, ahead, after⟩ := order
      obtain ⟨first, others⟩ := List.forall_mem_cons.mp holds
      obtain ⟨second, later⟩ := List.forall_mem_cons.mp others
      rw [mergeInto]
      split
      · rename_i fits
        apply ih joined
        exact List.forall_mem_cons.mpr
          ⟨joins current next first second forward between ahead fits, later⟩
      · exact List.forall_mem_cons.mpr ⟨first, ih ⟨between, ahead, after⟩ others⟩

theorem merge_forall {P : Chunk → Prop}
    (joins : ∀ left right, P left → P right → left.start ≤ left.stop → left.stop ≤ right.start →
      right.start ≤ right.stop → splitter.sizeOf code left.start right.stop ≤ splitter.budget →
      P (splitter.join code left right))
    {low high : Nat} {pieces : List Chunk} (order : InOrder low high pieces)
    (holds : ∀ piece ∈ pieces, P piece) : ∀ chunk ∈ splitter.merge code pieces, P chunk := by
  cases pieces with
  | nil => intro chunk member; cases member
  | cons first rest => exact splitter.mergeInto_forall code joins rest order holds

/-! ## What lies between the pieces -/

theorem mergeInto_ne_nil (rest : List Chunk) : ∀ current : Chunk,
    splitter.mergeInto code current rest ≠ [] := by
  induction rest with
  | nil => intro current; simp [mergeInto]
  | cons next rest ih =>
      intro current
      rw [mergeInto]
      split
      · exact ih _
      · exact List.cons_ne_nil _ _

/-- Joining may stop anywhere and go on from the chunk that is open there. -/
theorem mergeInto_append {opened : Chunk} {back : List Chunk} (front : List Chunk) :
    ∀ {current : Chunk} {closed : List Chunk},
      splitter.mergeInto code current front = closed ++ [opened] →
      splitter.mergeInto code current (front ++ back) =
        closed ++ splitter.mergeInto code opened back := by
  induction front with
  | nil =>
      intro current closed reached
      have last : [] ++ [current] = closed ++ [opened] := by simpa [mergeInto] using reached
      obtain ⟨rfl, same⟩ := List.append_inj' last rfl
      rw [List.cons.inj same |>.1]
      rfl
  | cons next front ih =>
      intro current closed reached
      rw [mergeInto] at reached
      rw [List.cons_append, mergeInto]
      split at reached
      · rename_i fits
        rw [if_pos fits]
        exact ih reached
      · rename_i tooLarge
        rw [if_neg tooLarge]
        cases closed with
        | nil =>
            exact absurd (List.cons.inj reached).2 (splitter.mergeInto_ne_nil code front next)
        | cons first closed =>
            obtain ⟨rfl, later⟩ := List.cons.inj reached
            rw [ih later]
            rfl

theorem merge_append {front back closed : List Chunk} {opened : Chunk}
    (reached : splitter.merge code front = closed ++ [opened]) :
    splitter.merge code (front ++ back) = closed ++ splitter.mergeInto code opened back := by
  cases front with
  | nil => simp [merge] at reached
  | cons first front => exact splitter.mergeInto_append code front reached

/-- Each chunk begins where a piece begins and ends where a piece ends. -/
theorem merge_ends {low high : Nat} {pieces : List Chunk} (order : InOrder low high pieces) :
    ∀ chunk ∈ splitter.merge code pieces,
      (∃ piece ∈ pieces, piece.start = chunk.start) ∧ ∃ piece ∈ pieces, piece.stop = chunk.stop := by
  refine splitter.merge_forall (P := fun chunk => (∃ piece ∈ pieces, piece.start = chunk.start) ∧
    ∃ piece ∈ pieces, piece.stop = chunk.stop) code ?_ order ?_
  · intro left right first second _ _ _ _
    exact ⟨first.1, second.2⟩
  · intro piece member
    exact ⟨⟨piece, member, rfl⟩, ⟨piece, member, rfl⟩⟩

/-- The place lies behind a chunk that is open there and in front of a piece that fits together
with it. -/
def Bridges (pieces : List Chunk) (start stop : Nat) : Prop :=
  ∃ front piece back closed opened,
    pieces = front ++ piece :: back ∧ (∀ other ∈ front, other.stop ≤ start) ∧ stop ≤ piece.start ∧
    splitter.merge code front = closed ++ [opened] ∧
    splitter.sizeOf code opened.start piece.stop ≤ splitter.budget

theorem exists_front_back {start stop high : Nat} (pieces : List Chunk) : ∀ {low : Nat},
    InOrder low high pieces →
    (∀ piece ∈ pieces, piece.stop ≤ start ∨ stop ≤ piece.start) →
    ∃ front back, pieces = front ++ back ∧ (∀ piece ∈ front, piece.stop ≤ start) ∧
      ∀ piece ∈ back, stop ≤ piece.start := by
  induction pieces with
  | nil => intro low _ _; exact ⟨[], [], rfl, by simp, by simp⟩
  | cons first rest ih =>
      intro low order apart
      obtain ⟨here, later⟩ := List.forall_mem_cons.mp apart
      rcases here with before | after
      · obtain ⟨front, back, rfl, behind, ahead⟩ := ih order.2.2 later
        exact ⟨first :: front, back, rfl, List.forall_mem_cons.mpr ⟨before, behind⟩, ahead⟩
      · refine ⟨[], first :: rest, rfl, by simp, List.forall_mem_cons.mpr ⟨after, ?_⟩⟩
        intro piece member
        have between := (order.2.2.bounds member).1
        have forward := order.2.1
        omega

/-- A place between the pieces is covered only if it is bridged. -/
theorem bridges_of_merge_covers {low start stop high : Nat} {pieces : List Chunk}
    (order : InOrder low high pieces) (nonempty : start < stop)
    (apart : ∀ piece ∈ pieces, piece.stop ≤ start ∨ stop ≤ piece.start)
    (covered : ∃ chunk ∈ splitter.merge code pieces, chunk.Covers start stop) :
    splitter.Bridges code pieces start stop := by
  obtain ⟨chunk, member, starts, ends⟩ := covered
  obtain ⟨front, back, rfl, behind, ahead⟩ := exists_front_back pieces order apart
  obtain ⟨middle, frontOrder, backOrder⟩ := order.split
  -- the chunk has run over the place: it ends behind all pieces in front and begins before the rest
  have frontEnds : chunk ∉ splitter.merge code front := by
    intro early
    obtain ⟨_, piece, among, same⟩ := splitter.merge_ends code frontOrder chunk early
    have before := behind piece among
    omega
  have backStarts : chunk ∉ splitter.merge code back := by
    intro late
    obtain ⟨⟨piece, among, same⟩, _⟩ := splitter.merge_ends code backOrder chunk late
    have after := ahead piece among
    omega
  rcases List.eq_nil_or_concat (splitter.merge code front) with nothing | ⟨closed, opened, reached⟩
  · cases front with
    | nil => exact absurd member backStarts
    | cons first front => exact absurd nothing (splitter.mergeInto_ne_nil code front first)
  · rw [List.concat_eq_append] at reached
    cases back with
    | nil =>
        rw [List.append_nil] at member
        exact absurd member frontEnds
    | cons piece back =>
        refine ⟨front, piece, back, closed, opened, rfl, behind,
          ahead piece (List.mem_cons_self ..), reached, ?_⟩
        rw [splitter.merge_append code reached, mergeInto] at member
        split at member
        · assumption
        · rw [reached] at frontEnds
          rcases List.mem_append.mp member with early | late
          · exact absurd (List.mem_append_left _ early) frontEnds
          · rcases List.mem_cons.mp late with rfl | late
            · exact absurd (List.mem_append_right _ (List.mem_singleton_self _)) frontEnds
            · exact absurd late backStarts

theorem merge_covers_of_bridges {low start stop high : Nat} {pieces : List Chunk}
    (order : InOrder low high pieces) (bridges : splitter.Bridges code pieces start stop) :
    ∃ chunk ∈ splitter.merge code pieces, chunk.Covers start stop := by
  obtain ⟨front, piece, back, closed, opened, rfl, behind, ahead, reached, fits⟩ := bridges
  obtain ⟨middle, frontOrder, backOrder⟩ := order.split
  have mergedOrder := splitter.merge_inOrder code frontOrder
  have opens : opened ∈ splitter.merge code front := by rw [reached]; simp
  obtain ⟨_, other, among, same⟩ := splitter.merge_ends code frontOrder opened opens
  have begins : opened.start ≤ start := by
    have forward := (mergedOrder.bounds opens).2.1
    have before := behind other among
    omega
  rw [reached] at mergedOrder
  obtain ⟨first, _, openedOrder⟩ := mergedOrder.split
  have joined := splitter.join_inOrder code (backOrder.append openedOrder)
  obtain ⟨chunk, member, starts, ends⟩ :=
    splitter.mergeInto_covers code back joined (List.mem_cons_self ..)
  refine ⟨chunk, ?_, Nat.le_trans starts begins, ?_⟩
  · rw [splitter.merge_append code reached, mergeInto, if_pos fits]
    exact List.mem_append_right _ member
  · exact Nat.le_trans ahead (Nat.le_trans backOrder.2.1 ends)

end Splitter

end SourceIndex
