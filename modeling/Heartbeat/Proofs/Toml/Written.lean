import Mathlib.Tactic.IntervalCases
import Heartbeat.Toml.Reader

/-! A text and a number, written in the plainest way, are read back. A text stands in double quotes, and what cannot
stand there as it is is given by its number; a number is written with its digits. Each ends at the end of its line. -/
namespace Heartbeat.Toml

open Decimal (isDigitChar valueOf charValue)

/-- A character is none that a test tells from it. -/
theorem ne_of_test {test : Char → Bool} {c other : Char} (passes : test c = true) (fails : test other = false) :
    c ≠ other := by
  rintro rfl
  rw [passes] at fails
  cases fails

/-- Items that are read one by one are read together, up to where no item starts. -/
theorem readMany_flatMap {α : Type} {item : Reader α} {write : α → List Char} {rest : List Char}
    (stops : item rest = none) {items : List α} (reads : ∀ a ∈ items, ∀ rest, item (write a ++ rest) = some (a, rest))
    {most : Nat} (enough : items.length ≤ most) :
    readMany item most (items.flatMap write ++ rest) = (items, rest) := by
  induction items generalizing most with
  | nil =>
    cases most with
    | zero => rfl
    | succ most => simp [readMany, stops]
  | cons a items ih =>
    cases most with
    | zero => simp at enough
    | succ most =>
      have more := ih (fun b member => reads b (List.mem_cons_of_mem a member)) (Nat.le_of_succ_le_succ enough)
      have first := reads a List.mem_cons_self (items.flatMap write ++ rest)
      simp only [List.flatMap_cons, List.append_assoc, readMany, first, more]

/-! ## Texts -/

def hexChar (digit : Nat) : Char := if digit < 10 then Char.ofNat (0x30 + digit) else Char.ofNat (0x57 + digit)

/-- A character can stand in double quotes as it is. -/
def isVerbatim (c : Char) : Bool := isPlain c && c != '"' && c != '\\'

/-- A character of a text in double quotes. -/
def writeChar (c : Char) : List Char :=
  if isVerbatim c then [c] else ['\\', 'u', '0', '0', hexChar (c.toNat / 16), hexChar (c.toNat % 16)]

def writeText (text : String) : List Char := '"' :: text.toList.flatMap writeChar ++ ['"']

/-- What cannot stand as it is is one of the first 128 characters. -/
theorem toNat_of_not_isVerbatim {c : Char} (special : isVerbatim c = false) : c.toNat < 128 := by
  simp only [isVerbatim, isPlain, Bool.and_eq_false_iff, Bool.or_eq_false_iff, decide_eq_false_iff_not,
    bne_eq_false_iff_eq] at special
  rcases special with (⟨-, low | delete⟩ | rfl) | rfl
  · omega
  · omega
  · decide
  · decide

theorem hexDigit?_hexChar : ∀ digit < 16, hexDigit? (hexChar digit) = some digit := by decide

theorem escape?_writeChar {c : Char} (low : c.toNat < 128) (rest : List Char) :
    escape? ('u' :: '0' :: '0' :: hexChar (c.toNat / 16) :: hexChar (c.toNat % 16) :: rest) = some (c, rest) := by
  have zero : hexDigit? '0' = some 0 := rfl
  have high := hexDigit?_hexChar (c.toNat / 16) (by omega)
  have last := hexDigit?_hexChar (c.toNat % 16) (by omega)
  have whole : c.toNat / 16 * 16 + c.toNat % 16 = c.toNat := by omega
  have valid : c.toNat.isValidChar := c.valid
  simp [escape?, codePoint?, zero, high, last, whole, valid, Char.ofNat_toNat]

theorem textChar?_writeChar (c : Char) (rest : List Char) :
    textChar? doubleQuote (writeChar c ++ rest) = some (c, rest) := by
  cases verbatim : isVerbatim c with
  | true =>
    simp only [isVerbatim, Bool.and_eq_true, bne_iff_ne] at verbatim
    obtain ⟨⟨plain, quote⟩, backslash⟩ := verbatim
    have written : writeChar c = [c] := by simp [writeChar, isVerbatim, plain, quote, backslash]
    simp only [written, List.singleton_append, textChar?, doubleQuote, quote, backslash, plain, false_and, if_false,
      if_true]
  | false =>
    have escaped := escape?_writeChar (toNat_of_not_isVerbatim verbatim) rest
    simp only [writeChar, verbatim, Bool.false_eq_true, if_false, List.cons_append, List.nil_append]
    exact escaped

theorem length_writeChar_pos (c : Char) : 0 < (writeChar c).length := by
  unfold writeChar
  split <;> simp

theorem length_le_flatMap_writeChar (chars : List Char) : chars.length ≤ (chars.flatMap writeChar).length := by
  induction chars with
  | nil => exact Nat.le_refl _
  | cons c chars ih =>
    have one := length_writeChar_pos c
    simp only [List.flatMap_cons, List.length_cons, List.length_append]
    omega

theorem lineText?_flatMap (chars rest : List Char) :
    lineText? doubleQuote (chars.flatMap writeChar ++ '"' :: rest) = some (.ofList chars, rest) := by
  have stops : textChar? doubleQuote ('"' :: rest) = none := rfl
  have enough : chars.length ≤ (chars.flatMap writeChar ++ '"' :: rest).length := by
    have := length_le_flatMap_writeChar chars
    rw [List.length_append]
    omega
  rw [lineText?, readMany_flatMap stops (fun c _ => textChar?_writeChar c) enough]
  rfl

/-- **A text is read back.** -/
theorem text?_writeText (text : String) (rest : List Char) :
    text? (writeText text ++ '\n' :: rest) = some (text, '\n' :: rest) := by
  have written : writeText text ++ '\n' :: rest = '"' :: (text.toList.flatMap writeChar ++ '"' :: '\n' :: rest) := by
    simp [writeText]
  -- two quotes in a row are an empty text, for no third one follows
  have line : List.isPrefixOf ['"', '"'] (text.toList.flatMap writeChar ++ '"' :: '\n' :: rest) = false := by
    cases text.toList with
    | nil => rfl
    | cons c chars =>
      cases verbatim : isVerbatim c with
      | true =>
        have quote : c ≠ '"' := by
          simp only [isVerbatim, Bool.and_eq_true, bne_iff_ne] at verbatim
          exact verbatim.1.2
        simp [writeChar, verbatim, List.isPrefixOf, quote.symm]
      | false => simp [writeChar, verbatim, List.isPrefixOf]
  rw [written, text?, if_neg (by decide), if_neg (by rw [line]; exact Bool.false_ne_true)]
  have read := lineText?_flatMap text.toList ('\n' :: rest)
  rwa [String.ofList_toList] at read

/-! ## Numbers -/

/-- The digits of a number. -/
def writeNumber (n : Nat) : List Char := Nat.toDigits 10 n

theorem digitChar_eq {d : Nat} (small : d < 10) : isDigitChar d.digitChar = true ∧ charValue d.digitChar = d := by
  interval_cases d <;> decide

theorem isDigitChar_of_mem_writeNumber {n : Nat} {c : Char} (member : c ∈ writeNumber n) : isDigitChar c = true := by
  have digit := Nat.isDigit_of_mem_toDigits (by decide) (by decide) member
  simp only [Char.isDigit, Bool.and_eq_true, decide_eq_true_eq, ge_iff_le, UInt32.le_iff_toNat_le] at digit
  simpa [isDigitChar] using digit

theorem valueOf_writeNumber (n : Nat) : valueOf (writeNumber n) = n := by
  induction n using Nat.strongRecOn with
  | ind n ih =>
    by_cases small : n < 10
    · rw [writeNumber, Nat.toDigits_of_lt_base small]
      have digit := (digitChar_eq small).2
      simp [valueOf, digit]
    · have tenth := ih (n / 10) (by omega)
      have digit := (digitChar_eq (Nat.mod_lt n (by omega : 10 > 0))).2
      rw [writeNumber, valueOf] at tenth
      rw [writeNumber, Nat.toDigits_of_base_le (by decide) (by omega), valueOf, List.foldl_append, tenth]
      simp only [List.foldl_cons, List.foldl_nil, digit]
      omega

/-- The first digit of a number is no zero, unless the number is one. -/
theorem writeNumber_cons (n : Nat) :
    ∃ c digits, writeNumber n = c :: digits ∧ isDigitChar c = true ∧ (c = '0' → n = 0 ∧ digits = []) := by
  induction n using Nat.strongRecOn with
  | ind n ih =>
    by_cases small : n < 10
    · refine ⟨n.digitChar, [], ?_, (digitChar_eq small).1, fun zero => ⟨?_, rfl⟩⟩
      · rw [writeNumber, Nat.toDigits_of_lt_base small]
      · have value := (digitChar_eq small).2
        rw [zero] at value
        exact value.symm
    · obtain ⟨c, digits, written, digit, zero⟩ := ih (n / 10) (by omega)
      refine ⟨c, digits ++ [(n % 10).digitChar], ?_, digit, fun first => ?_⟩
      · rw [writeNumber] at written
        rw [writeNumber, Nat.toDigits_of_base_le (by decide) (by omega), written, List.cons_append]
      · have := (zero first).1
        omega

/-- What comes after digits of a number, or in the middle of them. -/
def AfterDigits (chars : List Char) : Prop := ∃ c rest, chars = c :: rest ∧ (isDigitChar c = true ∨ c = '\n')

theorem afterDigits_drop {digits : List Char} (all : ∀ c ∈ digits, isDigitChar c = true) (count : Nat)
    (rest : List Char) (within : count ≤ digits.length) : AfterDigits ((digits ++ '\n' :: rest).drop count) := by
  rw [List.drop_append_of_le_length within]
  cases left : digits.drop count with
  | nil => exact ⟨'\n', rest, rfl, .inr rfl⟩
  | cons c more =>
    have member : c ∈ digits := List.mem_of_mem_drop (left ▸ List.mem_cons_self)
    exact ⟨c, more ++ '\n' :: rest, rfl, .inl (all c member)⟩

theorem length_takeWhile_take_le (digits rest : List Char) (count : Nat) :
    (((digits ++ '\n' :: rest).take count).takeWhile isDigitChar).length ≤ digits.length := by
  induction digits generalizing count with
  | nil =>
    cases count with
    | zero => simp
    | succ count =>
      have newline : isDigitChar '\n' = false := by decide
      simp [newline]
  | cons c digits ih =>
    cases count with
    | zero => simp
    | succ count =>
      cases digit : isDigitChar c with
      | true => simpa [digit] using ih count
      | false => simp [digit]

/-- Digits are no date and no time: no mark follows them, wherever a number of a fixed width ends. -/
theorem marked?_of_number {digits rest after : List Char} (all : ∀ c ∈ digits, isDigitChar c = true) {count n : Nat}
    (read : number count (digits ++ '\n' :: rest) = some (n, after)) (mark : Char)
    (other : isDigitChar mark = false ∧ mark ≠ '\n') (width : Nat) : marked? mark width after = none := by
  have apart : AfterDigits after := by
    rw [number, Time.scanNumber] at read
    split at read
    · cases read
    split at read
    · cases read
    · cases read
      exact afterDigits_drop all _ rest (length_takeWhile_take_le digits rest count)
  obtain ⟨c, more, rfl, digit | newline⟩ := apart
  · have differs : c ≠ mark := ne_of_test digit other.1
    simp [marked?, differs]
  · have differs : c ≠ mark := newline ▸ other.2.symm
    simp [marked?, differs]

theorem moment?_of_digits {digits : List Char} (all : ∀ c ∈ digits, isDigitChar c = true) (rest : List Char) :
    moment? (digits ++ '\n' :: rest) = none := by
  have date : date? (digits ++ '\n' :: rest) = none := by
    cases read : number 4 (digits ++ '\n' :: rest) with
    | none => simp [date?, read]
    | some read' =>
      have month := marked?_of_number all read '-' (by decide) 2
      simp [date?, read, month]
  have time : timeOfDay? (digits ++ '\n' :: rest) = none := by
    cases read : number 2 (digits ++ '\n' :: rest) with
    | none => simp [timeOfDay?, read]
    | some read' =>
      have minute := marked?_of_number all read ':' (by decide) 2
      simp [timeOfDay?, read, minute]
  simp [moment?, date, time]

theorem nextDigit?_of_digit {c : Char} (digit : isDigitChar c = true) (rest : List Char) :
    nextDigit? isDigitChar (c :: rest) = some (c, rest) := by
  have underscore : c ≠ '_' := by
    rintro rfl
    cases digit
  unfold nextDigit?
  split
  · next eq => exact absurd (List.cons.inj eq).1 underscore
  · next eq =>
    cases eq
    rw [if_pos digit]
  · next eq => cases eq

theorem digits?_of_digits {c : Char} {digits : List Char} (first : isDigitChar c = true)
    (all : ∀ c ∈ digits, isDigitChar c = true) (rest : List Char) :
    digits? isDigitChar (c :: digits ++ '\n' :: rest) = some (c :: digits, '\n' :: rest) := by
  have stops : nextDigit? isDigitChar ('\n' :: rest) = none := rfl
  have enough : digits.length ≤ (digits ++ '\n' :: rest).length := by simp
  have reads : ∀ c ∈ digits, ∀ rest, nextDigit? isDigitChar ([c] ++ rest) = some (c, rest) :=
    fun c member => nextDigit?_of_digit (all c member)
  have more := readMany_flatMap stops reads enough
  rw [List.flatMap_singleton'] at more
  rw [List.cons_append, digits?, if_pos first, more]

theorem fitting?_of_lt {n : Nat} (fits : n < 2 ^ 63) : fitting? n = some (.integer (.ofInt n)) := by
  apply if_pos
  have low : Int64.minValue.toInt = -2 ^ 63 := rfl
  have high : Int64.maxValue.toInt = 2 ^ 63 - 1 := rfl
  rw [low, high]
  omega

theorem wholeDigits?_writeNumber (n : Nat) (rest : List Char) :
    wholeDigits? (writeNumber n ++ '\n' :: rest) = some (writeNumber n, '\n' :: rest) := by
  obtain ⟨c, digits, written, first, zero⟩ := writeNumber_cons n
  have all : ∀ d ∈ digits, isDigitChar d = true := fun d member =>
    isDigitChar_of_mem_writeNumber (written ▸ List.mem_cons_of_mem c member)
  rw [written]
  by_cases leading : c = '0'
  · obtain ⟨-, rfl⟩ := zero leading
    rw [leading]
    rfl
  · have read := digits?_of_digits first all rest
    rw [List.cons_append] at read ⊢
    unfold wholeDigits?
    split
    · next eq => exact absurd (List.cons.inj eq).1 leading
    · exact read

theorem signOf_writeNumber (n : Nat) (rest : List Char) :
    signOf (writeNumber n ++ '\n' :: rest) = (false, writeNumber n ++ '\n' :: rest) := by
  obtain ⟨c, digits, written, first, -⟩ := writeNumber_cons n
  rw [written, List.cons_append]
  unfold signOf
  split
  · next eq =>
    rw [(List.cons.inj eq).1] at first
    cases first
  · next eq =>
    rw [(List.cons.inj eq).1] at first
    cases first
  · rfl

theorem decimal?_writeNumber {n : Nat} (fits : n < 2 ^ 63) (rest : List Char) :
    decimal? (writeNumber n ++ '\n' :: rest) = some (.integer (.ofInt n), '\n' :: rest) := by
  have whole := wholeDigits?_writeNumber n rest
  have part : fraction? ('\n' :: rest) = none := rfl
  have exponent : exponent? ('\n' :: rest) = none := rfl
  simp [decimal?, signOf_writeNumber, whole, part, exponent, valueOf_writeNumber, fitting?_of_lt fits]

theorem numberWord?_writeNumber (n : Nat) (rest : List Char) :
    numberWord? (writeNumber n ++ '\n' :: rest) = none := by
  obtain ⟨c, digits, written, first, -⟩ := writeNumber_cons n
  have unsigned := signOf_writeNumber n rest
  rw [written, List.cons_append] at unsigned ⊢
  rw [numberWord?, unsigned]
  split
  · next eq =>
    simp only [Prod.mk.injEq, List.cons.injEq] at eq
    rw [eq.2.1] at first
    cases first
  · next eq =>
    simp only [Prod.mk.injEq, List.cons.injEq] at eq
    rw [eq.2.1] at first
    cases first
  · rfl

/-- A zero in front is all of a number, so no base stands behind it. -/
theorem writeNumber_ne_based {n : Nat} {base : Char} {rest more : List Char} (letter : base ≠ '\n') :
    writeNumber n ++ '\n' :: rest ≠ '0' :: base :: more := by
  obtain ⟨c, digits, written, -, zero⟩ := writeNumber_cons n
  intro eq
  rw [written, List.cons_append, List.cons.injEq] at eq
  rw [(zero eq.1).2] at eq
  exact letter (List.cons.inj eq.2).1.symm

/-- **A number is read back.** -/
theorem number?_writeNumber {n : Nat} (fits : n < 2 ^ 63) (rest : List Char) :
    number? (writeNumber n ++ '\n' :: rest) = some (.integer (.ofInt n), '\n' :: rest) := by
  unfold number?
  split
  · next eq => exact absurd eq (writeNumber_ne_based (by decide))
  · next eq => exact absurd eq (writeNumber_ne_based (by decide))
  · next eq => exact absurd eq (writeNumber_ne_based (by decide))
  · rw [numberWord?_writeNumber]
    exact decimal?_writeNumber fits rest

/-! ## Values -/

theorem value?_eq_scalar? {c : Char} {rest : List Char} (list : c ≠ '[') (table : c ≠ '\x7b') (depth : Nat) :
    value? depth (c :: rest) = scalar? (c :: rest) := by
  cases depth with
  | zero => rfl
  | succ depth =>
    unfold value?
    split
    · next eq => exact absurd (List.cons.inj eq).1 list
    · next eq => exact absurd (List.cons.inj eq).1 table
    · rfl

theorem scalar?_eq {c : Char} {rest : List Char} (t : c ≠ 't') (f : c ≠ 'f') :
    scalar? (c :: rest) = match text? (c :: rest) with
      | some (text, rest) => some (.text text, rest)
      | none =>
        match moment? (c :: rest) with
        | some (moment, rest) => some (.moment moment, rest)
        | none => number? (c :: rest) := by
  unfold scalar?
  split
  · next eq => exact absurd (List.cons.inj eq).1 t
  · next eq => exact absurd (List.cons.inj eq).1 f
  · rfl

/-- How a value is written on its line, and that it is read back. -/
structure Written where
  chars : List Char
  value : Value
  /-- No blank comes first. -/
  solid : ∀ rest, skipBlanks (chars ++ '\n' :: rest) = chars ++ '\n' :: rest
  reads : ∀ rest, value? maxDepth (chars ++ '\n' :: rest) = some (value, '\n' :: rest)

def Written.text (text : String) : Written where
  chars := writeText text
  value := .text text
  solid := fun _ => rfl
  reads := fun rest => by
    have read := text?_writeText text rest
    rw [writeText, List.cons_append, List.cons_append] at read ⊢
    rw [value?_eq_scalar? (by decide) (by decide), scalar?_eq (by decide) (by decide), read]

theorem value?_writeNumber {n : Nat} (fits : n < 2 ^ 63) (depth : Nat) (rest : List Char) :
    value? depth (writeNumber n ++ '\n' :: rest) = some (.integer (.ofInt n), '\n' :: rest) := by
  have moment := moment?_of_digits (fun c member => isDigitChar_of_mem_writeNumber (n := n) member) rest
  have read := number?_writeNumber fits rest
  obtain ⟨c, digits, written, first, -⟩ := writeNumber_cons n
  have ne {other : Char} (apart : isDigitChar other = false) : c ≠ other := ne_of_test first apart
  have text : text? (c :: (digits ++ '\n' :: rest)) = none := if_pos ⟨ne rfl, ne rfl⟩
  rw [written, List.cons_append] at moment read ⊢
  rw [value?_eq_scalar? (ne rfl) (ne rfl), scalar?_eq (ne rfl) (ne rfl), text, moment, read]

def Written.number (n : Nat) (fits : n < 2 ^ 63) : Written where
  chars := writeNumber n
  value := .integer (.ofInt n)
  solid := fun rest => by
    obtain ⟨c, digits, written, first, -⟩ := writeNumber_cons n
    have space : c ≠ ' ' := ne_of_test first rfl
    have tab : c ≠ '\t' := ne_of_test first rfl
    rw [written, List.cons_append, skipBlanks, List.dropWhile_cons_of_neg (by simp [isBlank, space, tab])]
  reads := value?_writeNumber fits maxDepth

end Heartbeat.Toml
