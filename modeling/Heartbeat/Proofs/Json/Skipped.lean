import Heartbeat.Json.Skip
import Heartbeat.Proofs.Json.Grammar

/-! A value that nobody asked for is passed as a whole, however it is spelled and however deep it nests. The
two moves of `skip` are counted over the phrase of the value, and there are at most twice as many as its text
has bytes. -/
namespace Heartbeat.Json
open Text (encode)

/-! ## Numbers -/

variable {rest : Bytes}

theorem Digits.dropWhile_text (digits : Digits) (solid : ∀ b ∈ rest.head?, isDigit b = false) :
    (encode digits.text ++ rest).dropWhile isDigit = rest :=
  (window_of_digits (Numeral.isDigit_of_mem_whole digits) solid).2

/-- What stands behind the letter of an exponent is passed. -/
theorem skipExponent_digits (digits : Digits) (sign : Option Bool) (apart : Apart rest) :
    skipExponent (encode (match sign with | some true => "-" | some false => "+" | none => "") ++
      (encode digits.text ++ rest)) = .ok rest := by
  have digit := isDigit_digitByte digits.first
  have passed := digits.dropWhile_text apart.not_isDigit
  rw [Digits.encode_text, List.cons_append] at passed ⊢
  rw [List.dropWhile_cons_of_pos digit] at passed
  match sign with
  | some true =>
    show skipExponent (0x2D :: digitByte digits.first :: _) = _
    simp only [skipExponent, digit, passed, if_true]
  | some false =>
    show skipExponent (0x2B :: digitByte digits.first :: _) = _
    simp only [skipExponent, digit, passed, if_true]
  | none =>
    show skipExponent (digitByte digits.first :: _) = _
    unfold skipExponent
    split
    · rename_i plus
      rw [(List.cons.inj plus).1] at digit
      exact absurd digit (by decide)
    · rename_i minus
      rw [(List.cons.inj minus).1] at digit
      exact absurd digit (by decide)
    · simp only [digit, passed, if_true]

/-- An exponent starts with its letter. -/
theorem Exponent.encode_text (e : Exponent) (apart : Apart rest) :
    ∃ b more, encode e.text ++ rest = b :: more ∧ (b = 0x65 ∨ b = 0x45) ∧ skipExponent more = .ok rest := by
  obtain ⟨capital, sign, digits⟩ := e
  refine ⟨if capital then 0x45 else 0x65, _, ?_, by cases capital <;> simp,
    skipExponent_digits digits sign apart⟩
  simp only [text, Text.encode_append, List.append_assoc]
  cases capital <;> rfl

/-- A fraction is passed, and the exponent behind it if there is one. -/
theorem skipAfterDigits_fraction (digits : Digits) (exponent : Option Exponent) (apart : Apart rest) :
    skipAfterDigits (encode ("." ++ digits.text) ++
      (encode (match exponent with | some e => e.text | none => "") ++ rest)) = .ok rest := by
  have first (behind : Bytes) : ((encode digits.text ++ behind).head?.map isDigit).getD false = true := by
    rw [Digits.encode_text]
    exact isDigit_digitByte digits.first
  have point (behind : Bytes) :
      encode ("." ++ digits.text) ++ behind = 0x2E :: (encode digits.text ++ behind) := by
    rw [Text.encode_append]
    rfl
  rw [point]
  cases exponent with
  | none =>
    have passed := digits.dropWhile_text apart.not_isDigit
    simp only [skipAfterDigits, first, if_true, Text.encode_empty, List.nil_append, passed]
    split
    · exact absurd rfl (apart _ rfl).2.2.1
    · exact absurd rfl (apart _ rfl).2.2.2
    · rfl
  | some e =>
    obtain ⟨b, more, letter, here, behind⟩ := e.encode_text apart
    have solid : ∀ b' ∈ (b :: more).head?, isDigit b' = false := by
      rintro _ ⟨⟩
      rcases here with rfl | rfl <;> rfl
    have passed := digits.dropWhile_text solid
    simp only [skipAfterDigits, first, if_true, letter, passed]
    rcases here with rfl | rfl <;> exact behind

namespace Numeral

/-- What stands behind the digits of the whole part is passed. -/
theorem skipAfterDigits_tail (n : Numeral) (apart : Apart rest) :
    skipAfterDigits (encode n.tail ++ rest) = .ok rest := by
  obtain ⟨negative, whole, fraction, exponent, noLeadingZero⟩ := n
  cases fraction with
  | some digits =>
    rw [tail, Text.encode_append, List.append_assoc]
    exact skipAfterDigits_fraction digits exponent apart
  | none =>
    cases exponent with
    | none =>
      show skipAfterDigits rest = _
      unfold skipAfterDigits
      split
      · exact absurd rfl (apart _ rfl).2.1
      · exact absurd rfl (apart _ rfl).2.2.1
      · exact absurd rfl (apart _ rfl).2.2.2
      · rfl
    | some e =>
      obtain ⟨b, more, letter, here, behind⟩ := e.encode_text apart
      show skipAfterDigits (encode e.text ++ rest) = _
      rw [letter]
      rcases here with rfl | rfl <;> exact behind

/-- A number whose sign has been passed is passed. -/
theorem skipNumber_whole (n : Numeral) (apart : Apart rest) :
    skipNumber (encode n.whole.text ++ (encode n.tail ++ rest)) = .ok rest := by
  have solid := n.not_isDigit_tail apart
  have behind := n.skipAfterDigits_tail apart
  generalize encode n.tail ++ rest = text at solid behind ⊢
  have passed := n.whole.dropWhile_text solid
  rw [Digits.encode_text, List.cons_append] at passed ⊢
  by_cases zero : n.whole.first = 0
  · rw [n.noLeadingZero zero, zero]
    show skipNumber (0x30 :: text) = _
    simp only [skipNumber, if_true, not_isDigit_head solid, Bool.false_eq_true, if_false, behind]
  · have positive : digitByte n.whole.first ≠ 0x30 := fun eq => zero (digitByte_eq_zero.mp eq)
    have digit := isDigit_digitByte n.whole.first
    rw [List.dropWhile_cons_of_pos digit] at passed
    simp only [skipNumber, positive, if_false, digit, if_true, passed, behind]

end Numeral

/-! ## One move -/

mutual

/-- How many moves pass a value. -/
def Phrase.moves : Phrase → Nat
  | .list _ items => itemsMoves items + 2
  | .object _ members => membersMoves members + 2
  | _ => 1

def itemsMoves : List (Spaced Phrase) → Nat
  | [] => 0
  | ⟨_, item, _⟩ :: items => item.moves + 1 + itemsMoves items

def membersMoves : List (Member Phrase) → Nat
  | [] => 0
  | ⟨_, _, _, _, value, _⟩ :: members => value.moves + 1 + membersMoves members

end

theorem skipToken_digit {text : Bytes} {b : UInt8} (front : skipBlanks text = b :: rest)
    (digit : isDigit b = true) : skipToken text = .value <$> skipNumber (b :: rest) := by
  have other {c : UInt8} (none : isDigit c = false) : b ≠ c := ne_of_isDigit digit none
  simp only [skipToken, front, other (by decide : isDigit 0x22 = false),
    other (by decide : isDigit 0x5B = false), other (by decide : isDigit 0x7B = false),
    other (by decide : isDigit 0x6E = false), other (by decide : isDigit 0x74 = false),
    other (by decide : isDigit 0x66 = false), other (by decide : isDigit 0x2D = false), digit, if_true,
    if_false]

/-- What holds no other value is passed as a whole. -/
theorem Phrase.skipToken_leaf {phrase : Phrase} (leaf : phrase.moves = 1) (gap : Gap) (apart : Apart rest) :
    skipToken (gap.bytes ++ (phrase.bytes ++ rest)) = .ok (.value rest) := by
  have front := (gap.skipBlanks _).trans (phrase.skipBlanks rest)
  cases phrase with
  | null =>
    rw [skipToken, front]
    rfl
  | boolean value =>
    rw [skipToken, front]
    cases value <;> rfl
  | number n =>
    have passed := n.skipNumber_whole apart
    rcases n.encode_text rest with ⟨-, text⟩ | ⟨-, text⟩
    · rw [bytes, text] at front ⊢
      rw [skipToken, front]
      exact congrArg (Passed.value <$> ·) passed
    · rw [bytes, text] at front ⊢
      rw [Digits.encode_text, List.cons_append] at front passed ⊢
      rw [skipToken_digit front (isDigit_digitByte _), passed]
      rfl
  | string q =>
    have passed := q.skipString_body rest
    rw [skipToken, front]
    exact congrArg (Passed.value <$> ·) passed
  | list => exact absurd leaf (by simp [moves])
  | object => exact absurd leaf (by simp [moves])

theorem skipToken_list (gap : Gap) (text : Bytes) :
    skipToken (gap.bytes ++ 0x5B :: text) = .ok (.opened .list text) := by
  rw [skipToken, gap.skipBlanks]
  rfl

theorem skipToken_object (gap : Gap) (text : Bytes) :
    skipToken (gap.bytes ++ 0x7B :: text) = .ok (.opened .object text) := by
  rw [skipToken, gap.skipBlanks]
  rfl

/-- A key is passed, and the colon behind it. -/
theorem skipKey_body (before behind : Gap) (key : Quoted) (text : Bytes) :
    skipKey (before.bytes ++ 0x22 :: (key.body ++ (behind.bytes ++ 0x3A :: text))) = .ok text := by
  have quote : skipBlanks (before.bytes ++ 0x22 :: (key.body ++ (behind.bytes ++ 0x3A :: text))) =
      0x22 :: (key.body ++ (behind.bytes ++ 0x3A :: text)) := before.skipBlanks _
  have colon : skipBlanks (behind.bytes ++ 0x3A :: text) = 0x3A :: text := behind.skipBlanks _
  simp only [skipKey, quote, key.skipString_body, bind, Except.bind, colon]

/-! ## All moves -/

mutual

theorem Phrase.moves_le (phrase : Phrase) : phrase.moves ≤ 2 * phrase.bytes.length := by
  have leaf : 1 ≤ 2 * phrase.bytes.length := by
    obtain ⟨b, more, eq, -⟩ := phrase.starts
    rw [eq, List.length_cons]
    omega
  cases phrase with
  | null => exact leaf
  | boolean => exact leaf
  | number => exact leaf
  | string => exact leaf
  | list inner items =>
    have inside := itemsMoves_le items
    simp only [Phrase.moves, Phrase.bytes, List.length_cons, List.length_append, List.length_tail,
      List.length_nil]
    omega
  | object inner members =>
    have inside := membersMoves_le members
    simp only [Phrase.moves, Phrase.bytes, List.length_cons, List.length_append, List.length_tail,
      List.length_nil]
    omega

theorem itemsMoves_le (items : List (Spaced Phrase)) : itemsMoves items ≤ 2 * (itemsBytes items).length := by
  match items with
  | [] => exact Nat.zero_le _
  | ⟨before, item, after⟩ :: items =>
    have one := item.moves_le
    have others := itemsMoves_le items
    simp only [itemsMoves, itemsBytes, List.length_cons, List.length_append]
    omega

theorem membersMoves_le (members : List (Member Phrase)) :
    membersMoves members ≤ 2 * (membersBytes members).length := by
  match members with
  | [] => exact Nat.zero_le _
  | ⟨before, key, behind, front, value, after⟩ :: members =>
    have one := value.moves_le
    have others := membersMoves_le members
    simp only [membersMoves, membersBytes, List.length_cons, List.length_append]
    omega

end

theorem itemsMoves_cons (before after : Gap) (item : Phrase) (items : List (Spaced Phrase)) (fuel : Nat) :
    itemsMoves (⟨before, item, after⟩ :: items) + fuel = item.moves + (itemsMoves items + fuel + 1) := by
  simp only [itemsMoves]
  omega

theorem membersMoves_cons (before behind front after : Gap) (key : Quoted) (value : Phrase)
    (members : List (Member Phrase)) (fuel : Nat) :
    membersMoves (⟨before, key, behind, front, value, after⟩ :: members) + fuel =
      value.moves + (membersMoves members + fuel + 1) := by
  simp only [membersMoves]
  omega

/-- Behind a value or an opening bracket, a bracket closes. -/
theorem skipAfter_close {b : UInt8} {container : Container} (closing : closes b container = true)
    (solid : isBlank b = false) (fuel : Nat) (comma : Bool) (outer : List Container) (gap : Gap)
    (text : Bytes) :
    skipAfter (fuel + 1) comma (container :: outer) (gap.bytes ++ b :: text) =
      skipAfter fuel true outer text := by
  have front := (gap.skipBlanks (b :: text)).trans (skipBlanks_cons solid text)
  simp only [skipAfter, front, closing, if_true]

/-- Behind a comma stands the next item or member. -/
theorem skipAfter_comma (fuel : Nat) (container : Container) (outer : List Container) (gap : Gap)
    (text : Bytes) :
    skipAfter (fuel + 1) true (container :: outer) (gap.bytes ++ 0x2C :: text) =
      skipInto container text >>= skipValue fuel (container :: outer) := by
  have front : skipBlanks (gap.bytes ++ 0x2C :: text) = 0x2C :: text := gap.skipBlanks _
  have going : closes 0x2C container = false := by cases container <;> rfl
  simp only [skipAfter, front, going, if_true, Bool.false_eq_true, if_false]

/-- Behind an opening bracket stands the first item or member. -/
theorem skipAfter_first {text more : Bytes} {b : UInt8} (front : skipBlanks text = b :: more)
    (opens : Opens b) (fuel : Nat) (container : Container) (outer : List Container) :
    skipAfter (fuel + 1) false (container :: outer) text =
      skipInto container (b :: more) >>= skipValue fuel (container :: outer) := by
  obtain ⟨-, -, bracket, brace⟩ := opens
  have going : closes b container = false := by
    cases container with
    | list => simpa [closes] using bracket
    | object => simpa [closes] using brace
  simp only [skipAfter, front, going, Bool.false_eq_true, if_false]

/-- What holds no other value takes one move. -/
theorem Phrase.skipValue_leaf {phrase : Phrase} (leaf : phrase.moves = 1) (gap : Gap) (apart : Apart rest)
    (fuel : Nat) (outer : List Container) :
    skipValue (phrase.moves + fuel) outer (gap.bytes ++ (phrase.bytes ++ rest)) =
      skipAfter fuel true outer rest := by
  rw [leaf, Nat.add_comm, skipValue, skipToken_leaf leaf gap apart]
  rfl

theorem Phrase.skipValue_list (inner : Gap) (items : List (Spaced Phrase)) (gap : Gap) (fuel : Nat)
    (outer : List Container) (rest : Bytes) :
    skipValue ((Phrase.list inner items).moves + fuel) outer
        (gap.bytes ++ ((Phrase.list inner items).bytes ++ rest)) =
      skipAfter (itemsMoves items + fuel + 1) false (.list :: outer)
        (inner.bytes ++ ((itemsBytes items).tail ++ 0x5D :: rest)) := by
  have moves : (Phrase.list inner items).moves + fuel = itemsMoves items + fuel + 1 + 1 := by
    simp only [Phrase.moves]
    omega
  have text : (Phrase.list inner items).bytes ++ rest =
      0x5B :: (inner.bytes ++ ((itemsBytes items).tail ++ 0x5D :: rest)) := by
    simp [Phrase.bytes]
  rw [moves, text, skipValue, skipToken_list]
  rfl

theorem Phrase.skipValue_object (inner : Gap) (members : List (Member Phrase)) (gap : Gap) (fuel : Nat)
    (outer : List Container) (rest : Bytes) :
    skipValue ((Phrase.object inner members).moves + fuel) outer
        (gap.bytes ++ ((Phrase.object inner members).bytes ++ rest)) =
      skipAfter (membersMoves members + fuel + 1) false (.object :: outer)
        (inner.bytes ++ ((membersBytes members).tail ++ 0x7D :: rest)) := by
  have moves : (Phrase.object inner members).moves + fuel = membersMoves members + fuel + 1 + 1 := by
    simp only [Phrase.moves]
    omega
  have text : (Phrase.object inner members).bytes ++ rest =
      0x7B :: (inner.bytes ++ ((membersBytes members).tail ++ 0x7D :: rest)) := by
    simp [Phrase.bytes]
  rw [moves, text, skipValue, skipToken_object]
  rfl

mutual

/-- **A value is passed** in its moves, whatever is open around it. -/
theorem Phrase.skipValue_moves (phrase : Phrase) (gap : Gap) {rest : Bytes} (apart : Apart rest) (fuel : Nat)
    (outer : List Container) :
    skipValue (phrase.moves + fuel) outer (gap.bytes ++ (phrase.bytes ++ rest)) =
      skipAfter fuel true outer rest := by
  match phrase with
  | .null => exact Phrase.skipValue_leaf rfl gap apart fuel outer
  | .boolean _ => exact Phrase.skipValue_leaf rfl gap apart fuel outer
  | .number _ => exact Phrase.skipValue_leaf rfl gap apart fuel outer
  | .string _ => exact Phrase.skipValue_leaf rfl gap apart fuel outer
  | .list inner [] =>
    rw [Phrase.skipValue_list, itemsMoves, Nat.zero_add]
    exact skipAfter_close (b := 0x5D) rfl rfl fuel false outer inner rest
  | .list inner (⟨before, item, after⟩ :: items) =>
    obtain ⟨b, more, start, kind⟩ := item.starts
    have front : skipBlanks (inner.bytes ++ (before.bytes ++ (item.bytes ++
        (after.bytes ++ (itemsBytes items ++ 0x5D :: rest))))) =
          item.bytes ++ (after.bytes ++ (itemsBytes items ++ 0x5D :: rest)) := by
      rw [inner.skipBlanks, before.skipBlanks, item.skipBlanks]
    have passed := item.skipValue_moves {} (after.apart (itemsBytes_apart items rest))
      (itemsMoves items + fuel + 1) (.list :: outer)
    -- the first item has no comma in front; from the second on they are `skipAfter_items`
    rw [Phrase.skipValue_list, itemsMoves_cons]
    simp only [itemsBytes, List.tail_cons, List.append_assoc]
    rw [start] at front passed ⊢
    rw [skipAfter_first front kind.opens, ← skipAfter_items items after fuel outer rest, ← passed]
    rfl
  | .object inner [] =>
    rw [Phrase.skipValue_object, membersMoves, Nat.zero_add]
    exact skipAfter_close (b := 0x7D) rfl rfl fuel false outer inner rest
  | .object inner (⟨before, key, behind, front, value, after⟩ :: members) =>
    have quote (body : Bytes) :
        skipBlanks (inner.bytes ++ (before.bytes ++ 0x22 :: body)) = 0x22 :: body := by
      rw [inner.skipBlanks, before.skipBlanks]
      rfl
    have passed := value.skipValue_moves front (after.apart (membersBytes_apart members rest))
      (membersMoves members + fuel + 1) (.object :: outer)
    rw [Phrase.skipValue_object, membersMoves_cons]
    simp only [membersBytes, List.tail_cons, List.append_assoc, List.cons_append]
    rw [skipAfter_first (quote _) (by decide), ← skipAfter_members members after fuel outer rest, ← passed]
    exact congrArg (· >>= _) (skipKey_body {} behind key _)

/-- The items of a list behind another one are passed, and the bracket. -/
theorem skipAfter_items (items : List (Spaced Phrase)) (gap : Gap) (fuel : Nat) (outer : List Container)
    (rest : Bytes) :
    skipAfter (itemsMoves items + fuel + 1) true (.list :: outer)
        (gap.bytes ++ (itemsBytes items ++ 0x5D :: rest)) =
      skipAfter fuel true outer rest := by
  match items with
  | [] =>
    rw [itemsMoves, Nat.zero_add]
    exact skipAfter_close (b := 0x5D) rfl rfl fuel true outer gap rest
  | ⟨before, item, after⟩ :: items =>
    have passed := item.skipValue_moves before (after.apart (itemsBytes_apart items rest))
      (itemsMoves items + fuel + 1) (.list :: outer)
    simp only [itemsMoves_cons, itemsBytes, List.cons_append, List.append_assoc]
    rw [skipAfter_comma, ← skipAfter_items items after fuel outer rest, ← passed]
    rfl

/-- The members of an object behind another one are passed, and the brace. -/
theorem skipAfter_members (members : List (Member Phrase)) (gap : Gap) (fuel : Nat)
    (outer : List Container) (rest : Bytes) :
    skipAfter (membersMoves members + fuel + 1) true (.object :: outer)
        (gap.bytes ++ (membersBytes members ++ 0x7D :: rest)) =
      skipAfter fuel true outer rest := by
  match members with
  | [] =>
    rw [membersMoves, Nat.zero_add]
    exact skipAfter_close (b := 0x7D) rfl rfl fuel true outer gap rest
  | ⟨before, key, behind, front, value, after⟩ :: members =>
    have passed := value.skipValue_moves front (after.apart (membersBytes_apart members rest))
      (membersMoves members + fuel + 1) (.object :: outer)
    simp only [membersMoves_cons, membersBytes, List.cons_append, List.append_assoc]
    rw [skipAfter_comma, ← skipAfter_members members after fuel outer rest, ← passed, skipInto,
      skipKey_body]
    rfl

end

/-- **A value is skipped** however it is spelled and however deep it nests, and nothing behind it is. -/
theorem Phrase.skip_bytes (phrase : Phrase) (gap : Gap) (apart : Apart rest) :
    skip (gap.bytes ++ (phrase.bytes ++ rest)) = .ok rest := by
  have short := phrase.moves_le
  have enough : phrase.moves ≤ 2 * (gap.bytes ++ (phrase.bytes ++ rest)).length + 2 := by
    simp only [List.length_append]
    omega
  obtain ⟨fuel, moves⟩ := Nat.exists_eq_add_of_le enough
  rw [skip, moves, phrase.skipValue_moves gap apart fuel [], skipAfter]

end Heartbeat.Json
