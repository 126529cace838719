import Mathlib.Data.List.Infix
import Mathlib.Tactic.Common

/-! Searching a text, be it of characters or of bytes: for the first place of a piece, and for the first and the last
place of an element. Where the first piece ends is compared with a place by asking for pieces in front of it. -/
namespace Heartbeat.Text

variable {α : Type} [BEq α] [LawfulBEq α] {a : α} {piece text front back : List α} {i place : Nat}

/-- Where a piece of a text starts for the first time. -/
def firstPlace? (piece text : List α) : Option Nat := text.tails.findIdx? (piece.isPrefixOf ·)

/-- Where the first such piece ends; the start of the text if there is none. -/
def placeBehind (piece text : List α) : Nat :=
  match firstPlace? piece text with
  | some place => place + piece.length
  | none => 0

/-- Where an element stands for the last time. -/
def lastPlace? (a : α) (text : List α) : Option Nat :=
  (text.reverse.idxOf? a).map (text.length - 1 - ·)

theorem firstPlace?_eq_some (found : firstPlace? piece text = some i) :
    piece <+: text.drop i ∧ ∀ j < i, ¬ piece <+: text.drop j := by
  obtain ⟨_, starts, earlier⟩ := List.findIdx?_eq_some_iff_getElem.mp found
  simp only [List.getElem_tails, List.isPrefixOf_iff_prefix] at starts earlier
  exact ⟨starts, earlier⟩

theorem firstPlace?_eq_none (missing : firstPlace? piece text = none) : ¬ piece <:+: text := by
  intro inside
  obtain ⟨rest, starts, ends⟩ := List.infix_iff_prefix_suffix.mp inside
  have absent := List.findIdx?_eq_none_iff.mp missing rest ((List.mem_tails rest text).mpr ends)
  rw [List.isPrefixOf_iff_prefix.mpr starts] at absent
  cases absent

omit [BEq α] [LawfulBEq α] in
theorem infix_take_iff :
    piece <:+: text.take place ↔ ∃ i, i + piece.length ≤ place ∧ piece <+: text.drop i := by
  constructor
  · rintro ⟨before, after, whole⟩
    refine ⟨before.length, ?_, ?_⟩
    · have lengths := congrArg List.length whole
      simp only [List.length_append, List.length_take] at lengths
      omega
    · refine ⟨after ++ text.drop place, ?_⟩
      calc piece ++ (after ++ text.drop place)
          = ((before ++ piece ++ after) ++ text.drop place).drop before.length := by simp
        _ = text.drop before.length := by rw [whole, List.take_append_drop]
  · rintro ⟨i, room, starts⟩
    have within : piece <+: (text.drop i).take (place - i) :=
      List.prefix_take_iff.mpr ⟨starts, by omega⟩
    rw [← List.drop_take] at within
    exact within.isInfix.trans (List.drop_suffix i _).isInfix

/-- The first piece ends in front of a place exactly if there is one in front of it, or none at all. -/
theorem placeBehind_le_iff :
    placeBehind piece text ≤ place ↔ (piece <:+: text → piece <:+: text.take place) := by
  unfold placeBehind
  cases found : firstPlace? piece text with
  | none => simp [firstPlace?_eq_none found]
  | some i =>
    obtain ⟨starts, earlier⟩ := firstPlace?_eq_some found
    constructor
    · intro before _
      exact infix_take_iff.mpr ⟨i, before, starts⟩
    · intro inside
      have within := inside (starts.isInfix.trans (List.drop_suffix i text).isInfix)
      obtain ⟨j, room, starts'⟩ := infix_take_iff.mp within
      have first : i ≤ j := Nat.not_lt.mp fun before => earlier j before starts'
      show i + piece.length ≤ place
      omega

theorem idxOf?_append_cons (absent : a ∉ front) : (front ++ a :: back).idxOf? a = some front.length := by
  induction front with
  | nil => simp [List.idxOf?_cons]
  | cons b front ih =>
    have apart : (b == a) = false := beq_false_of_ne (List.ne_of_not_mem_cons absent).symm
    rw [List.cons_append, List.idxOf?_cons, apart, ih (List.not_mem_of_not_mem_cons absent)]
    rfl

omit [BEq α] [LawfulBEq α] in
/-- A piece does not reach across what it does not contain. -/
theorem infix_append_cons (absent : a ∉ piece) (inside : piece <:+: front ++ a :: back) :
    piece <:+: front ∨ piece <:+: back := by
  -- what starts at `a` is nothing
  have nothing {l : List α} (starts : l <+: a :: back) (plain : a ∉ l) : l = [] := by
    cases l with
    | nil => rfl
    | cons b l =>
      obtain ⟨rfl, -⟩ := List.cons_prefix_cons.mp starts
      exact absurd List.mem_cons_self plain
  rcases List.infix_append_iff.mp inside with before | behind | ⟨first, second, rfl, ends, starts⟩
  · exact .inl before
  · rcases List.infix_cons_iff.mp behind with here | later
    · rw [nothing here absent]
      exact .inl List.nil_infix
    · exact .inr later
  · obtain rfl := nothing starts fun member => absent (List.mem_append_right _ member)
    rw [List.append_nil]
    exact .inl ends.isInfix

theorem lastPlace?_append_cons (absent : a ∉ back) : lastPlace? a (front ++ a :: back) = some front.length := by
  have mirrored : (front ++ a :: back).reverse = back.reverse ++ a :: front.reverse := by simp
  rw [lastPlace?, mirrored, idxOf?_append_cons (by simpa using absent)]
  simp

theorem lastPlace?_eq_none (absent : a ∉ text) : lastPlace? a text = none := by
  have mirrored : a ∉ text.reverse := by simpa using absent
  rw [lastPlace?, List.idxOf?_eq_none_iff.mpr mirrored]
  rfl

end Heartbeat.Text
