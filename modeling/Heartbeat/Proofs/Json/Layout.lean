import Heartbeat.Json.Integers
import Heartbeat.Proofs.Json.Decimal
import Heartbeat.Proofs.Json.Spelling

/-! Records that were written are read back. A shape *reads* a value as something if the value's text, with
whatever may follow it, is read as that. The plain shapes read what they are written as; and a record reads
an object whose members fill its draft one after another. -/
namespace Heartbeat.Json
open Text (encode)

variable {σ α β : Type}

/-- The text of the value is read as `a`, wherever at least so many levels are left. -/
def Shape.Reads (shape : Shape α) (levels : Nat) (value : Value) (a : α) : Prop :=
  ∀ depth rest, levels < depth → Ends rest →
    shape.read depth (encode value.render ++ rest) = .ok (a, rest)

theorem Shape.Reads.deeper {shape : Shape α} {levels more : Nat} {value : Value} {a : α}
    (reads : shape.Reads levels value a) (le : levels ≤ more) : shape.Reads more value a :=
  fun depth rest left ends => reads depth rest (Nat.lt_of_le_of_lt le left) ends

theorem skipBlanks_cons {b : UInt8} (solid : isBlank b = false) (rest : Bytes) :
    skipBlanks (b :: rest) = b :: rest := by
  simp [skipBlanks, solid]

/-! ## Plain values -/

theorem isBlank_of_isDigit {b : UInt8} (digit : isDigit b = true) : isBlank b = false := by
  simp only [isBlank, Bool.or_eq_false_iff, beq_eq_false_iff_ne]
  refine ⟨⟨⟨?_, ?_⟩, ?_⟩, ?_⟩ <;> rintro rfl <;> exact absurd digit (by decide)

/-- An integer that was written starts with its sign or with a digit. -/
theorem encode_toString_cons (n : Int) :
    ∃ b more, encode (toString n) = b :: more ∧ (b = 0x2D ∨ isDigit b = true) := by
  rw [Int.toString_eq_repr, Int.repr_eq_if]
  split
  · obtain ⟨b, more, head, digit⟩ := encode_repr_cons n.toNat
    exact ⟨b, more, head, .inr digit⟩
  · exact ⟨0x2D, encode (-n).toNat.repr, by rw [Text.encode_append]; rfl, .inl rfl⟩

theorem skipBlanks_toString (n : Int) (rest : Bytes) :
    skipBlanks (encode (toString n) ++ rest) = encode (toString n) ++ rest := by
  obtain ⟨b, more, start, numeric⟩ := encode_toString_cons n
  have solid : isBlank b = false := by
    rcases numeric with rfl | digit
    · rfl
    · exact isBlank_of_isDigit digit
  rw [start, List.cons_append, skipBlanks_cons solid]

theorem Shape.integer_reads {expected : String} {fit? : Int → Option α} {n : Int} {a : α}
    (fits : fit? n = some a) (low : -9223372036854775808 ≤ n) (high : n < 18446744073709551616) :
    (Shape.integer expected fit?).Reads 0 (.ofInt n) a := by
  intro depth rest _ ends
  simp only [Shape.integer, Value.ofInt, Value.render, Number.render, skipBlanks_toString,
    number?_toString low high ends.apart, fits, bind, Except.bind, pure, Except.pure]

theorem encode_renderText (text : String) (rest : Bytes) :
    encode (renderText text) ++ rest =
      0x22 :: (encode (String.join (text.toList.map escapeChar)) ++ 0x22 :: rest) := by
  rw [renderText, Text.encode_append, Text.encode_append, List.append_assoc, List.append_assoc]
  rfl

theorem Shape.textual_reads {expected : String} {interpret : String → Except String α} {text : String}
    {a : α} (interprets : interpret text = .ok a) :
    (Shape.textual expected interpret).Reads 0 (.text text) a := by
  intro depth rest _ ends
  simp only [Shape.textual, Value.render, encode_renderText, skipBlanks_cons (by decide : isBlank 0x22 = false),
    stringBody_escaped, interprets, Except.mapError, bind, Except.bind, pure, Except.pure]

theorem Shape.variant_reads {known : List (String × α)} {name : String} {a : α}
    (here : known.lookup name = some a) : (Shape.variant known).Reads 0 (.text name) a := by
  intro depth rest _ ends
  simp only [Shape.variant, Value.render, encode_renderText, skipBlanks_cons (by decide : isBlank 0x22 = false),
    stringBody_escaped, here, if_true, bind, Except.bind, pure, Except.pure]

/-! ## Records -/

/-- A field is read from the text of a value into the draft. -/
def Field.Reads (field : Field σ) (levels : Nat) (draft : σ) (value : Value) (next : σ) : Prop :=
  ∀ depth rest, levels < depth → Ends rest →
    field.read depth draft (encode value.render ++ rest) = .ok (next, rest)

theorem Field.ofShape_reads {name : String} {shape : Shape β} {get : σ → Option β} {set : σ → β → σ}
    {levels : Nat} {value : Value} {b : β} (reads : shape.Reads levels value b) (draft : σ) :
    (Field.ofShape name shape get set).Reads levels draft value (set draft b) := by
  intro depth rest left ends
  simp only [Field.ofShape, reads depth rest left ends, bind, Except.bind, pure, Except.pure]

theorem Field.Reads.defaulted {field : Field σ} {levels : Nat} {draft next : σ} {value : Value}
    (reads : field.Reads levels draft value next) : field.defaulted.Reads levels draft value next := reads

/-- Members of an object fill the draft of a record, one after another. -/
inductive Layout.Fills (layout : Layout σ α) (levels : Nat) : σ → List (String × Value) → σ → Prop where
  | nil {draft : σ} : Fills layout levels draft [] draft
  | cons {draft next final : σ} {name : String} {value : Value} {members : List (String × Value)}
      {field : Field σ} (known : layout.field? name = some field) (unset : field.isSet draft = false)
      (reads : field.Reads levels draft value next) (more : Fills layout levels next members final) :
      Fills layout levels draft ((name, value) :: members) final

/-- What stands behind a member: the other members, and the brace that closes the object. -/
def behind (members : List (String × Value)) (rest : Bytes) : Bytes :=
  (renderMembers members).flatMap (fun member => 0x2C :: encode member) ++ 0x7D :: rest

theorem behind_ends (members : List (String × Value)) (rest : Bytes) : Ends (behind members rest) := by
  cases members with
  | nil => exact ends_cons (.inr (.inr rfl))
  | cons member members => exact ends_cons (.inl rfl)

theorem length_lt_behind (members : List (String × Value)) (rest : Bytes) :
    members.length < (behind members rest).length := by
  induction members with
  | nil => simp [behind, renderMembers]
  | cons member members ih =>
    simp only [behind, renderMembers, List.flatMap_cons, List.length_append, List.length_cons] at ih ⊢
    omega

theorem encode_intercalate (first : String) (others : List String) :
    encode (",".intercalate (first :: others)) =
      encode first ++ others.flatMap fun other => 0x2C :: encode other := by
  induction others generalizing first with
  | nil => simp
  | cons other others ih =>
    rw [String.intercalate_cons_cons, Text.encode_append, Text.encode_append, ih, List.flatMap_cons,
      List.append_assoc]
    rfl

/-- The text of a member, from its key on. -/
theorem encode_member (name : String) (value : Value) (rest : Bytes) :
    encode (renderText name ++ ":" ++ value.render) ++ rest =
      0x22 :: (encode (String.join (name.toList.map escapeChar)) ++
        0x22 :: 0x3A :: (encode value.render ++ rest)) := by
  rw [Text.encode_append, Text.encode_append, List.append_assoc, List.append_assoc, encode_renderText]
  rfl

theorem colon_here (rest : Bytes) : colon (0x3A :: rest) = .ok rest := by
  simp [colon, skipBlanks_cons (by decide : isBlank 0x3A = false)]

/-- A member is read by its name, and then the others are. -/
theorem membersFrom_more {member : String → σ → Reader σ} {fuel : Nat} {first : Bool} {state : σ}
    {name : String} {text body : Bytes}
    (key : nextKey first text = .ok (.more (encode (String.join (name.toList.map escapeChar)) ++
      0x22 :: body))) :
    membersFrom member (fuel + 1) first state text =
      member name state body >>= fun (next, rest) => membersFrom member fuel false next rest := by
  simp only [membersFrom, key, stringBody_escaped, bind, Except.bind]

namespace Layout

variable {layout : Layout σ α} {levels : Nat}

/-- A member is read by its field, and then the others are. -/
theorem membersFrom_field {depth fuel : Nat} {first : Bool} {draft : σ} {name : String} {field : Field σ}
    {text body : Bytes} (known : layout.field? name = some field) (unset : field.isSet draft = false)
    (key : nextKey first text = .ok (.more (encode (String.join (name.toList.map escapeChar)) ++
      0x22 :: 0x3A :: body))) :
    membersFrom (layout.member depth) (fuel + 1) first draft text =
      field.read depth draft body >>= fun (next, rest) =>
        membersFrom (layout.member depth) fuel false next rest := by
  rw [membersFrom_more key]
  simp only [member, known, unset, colon_here, bind, Except.bind, Bool.false_eq_true, if_false]

/-- One member is read, whatever stands in front of its key. -/
theorem membersFrom_step {depth fuel : Nat} (left : levels < depth) {first : Bool} {draft next : σ}
    {name : String} {value : Value} {members : List (String × Value)} {field : Field σ}
    {text rest : Bytes} (known : layout.field? name = some field) (unset : field.isSet draft = false)
    (reads : field.Reads levels draft value next)
    (key : nextKey first text = .ok (.more (encode (String.join (name.toList.map escapeChar)) ++
      0x22 :: 0x3A :: (encode value.render ++ behind members rest)))) :
    membersFrom (layout.member depth) (fuel + 1) first draft text =
      membersFrom (layout.member depth) fuel false next (behind members rest) := by
  rw [membersFrom_field known unset key, reads depth (behind members rest) left (behind_ends members rest)]
  rfl

theorem nextKey_done (first : Bool) (rest : Bytes) :
    nextKey first (0x7D :: rest) = .ok (.done (0x7D :: rest)) := by
  simp [nextKey, skipBlanks_cons (by decide : isBlank 0x7D = false)]

theorem nextKey_first (rest : Bytes) : nextKey true (0x22 :: rest) = .ok (.more rest) := by
  simp [nextKey, skipBlanks_cons (by decide : isBlank 0x22 = false)]

theorem nextKey_later (rest : Bytes) : nextKey false (0x2C :: 0x22 :: rest) = .ok (.more rest) := by
  simp [nextKey, skipBlanks_cons (by decide : isBlank 0x2C = false),
    skipBlanks_cons (by decide : isBlank 0x22 = false)]

/-- The members behind another one are read, up to the brace. -/
theorem Fills.later {depth : Nat} (left : levels < depth) {draft final : σ}
    {members : List (String × Value)} (fills : layout.Fills levels draft members final) {fuel : Nat}
    (enough : members.length < fuel) (rest : Bytes) :
    membersFrom (layout.member depth) fuel false draft (behind members rest) =
      .ok (final, 0x7D :: rest) := by
  induction fills generalizing fuel with
  | nil =>
    obtain ⟨fuel, rfl⟩ : ∃ n, fuel = n + 1 := ⟨fuel - 1, by simp at enough; omega⟩
    show membersFrom _ _ _ _ (0x7D :: rest) = _
    simp only [membersFrom, nextKey_done, bind, Except.bind, pure, Except.pure]
  | @cons draft next final name value members field known unset reads more ih =>
    obtain ⟨fuel, rfl⟩ : ∃ n, fuel = n + 1 := ⟨fuel - 1, by simp at enough; omega⟩
    rw [membersFrom_step left known unset reads]
    · exact ih (by simpa using enough)
    · rw [behind, renderMembers, List.flatMap_cons, List.append_assoc, List.cons_append]
      rw [← behind, encode_member]
      exact nextKey_later _

/-- **The members of an object are read** as what they were written for. -/
theorem Fills.object {depth : Nat} (left : levels < depth) {draft final : σ}
    {members : List (String × Value)} (fills : layout.Fills levels draft members final) (rest : Bytes) :
    Json.members (layout.member depth) draft
        (encode (",".intercalate (renderMembers members)) ++ 0x7D :: rest) =
      .ok (final, 0x7D :: rest) := by
  unfold Json.members
  cases fills with
  | nil =>
    show membersFrom _ _ _ _ (0x7D :: rest) = _
    simp only [membersFrom, nextKey_done, bind, Except.bind, pure, Except.pure]
  | @cons _ next _ name value members field known unset reads more =>
    rw [renderMembers, encode_intercalate, List.append_assoc, ← behind, encode_member]
    rw [membersFrom_step left known unset reads (nextKey_first _)]
    refine more.later left ?_ rest
    have short := length_lt_behind members rest
    simp only [List.length_cons, List.length_append]
    omega

/-- An object is read member by member, where one level is left for the object itself. -/
theorem read_object {depth : Nat} (left : 1 < depth) (text : Bytes) :
    layout.read depth (0x7B :: text) =
      Json.members (layout.member (depth - 1)) layout.empty text >>= fun (draft, rest) =>
        layout.finish draft rest.tail := by
  have entered (text : Bytes) : enter depth text = .ok (depth - 1) := if_neg (by omega)
  simp only [read, skipBlanks_cons (by decide : isBlank 0x7B = false), entered, if_true, bind, Except.bind]

/-- **A record survives being written**: an object whose members fill the draft of the record is read as
the record, where one level is left for the object itself. -/
theorem Fills.reads (draft : σ) {members : List (String × Value)} {a : α}
    (fills : layout.Fills levels layout.empty members draft) (built : layout.build draft = .ok a) :
    layout.shape.Reads (levels + 1) (.object members) a := by
  intro depth rest left ends
  have inner : levels < depth - 1 := by omega
  have text : encode (Value.object members).render ++ rest =
      0x7B :: (encode (",".intercalate (renderMembers members)) ++ 0x7D :: rest) := by
    rw [Value.render, Text.encode_append, Text.encode_append, List.append_assoc, List.append_assoc]
    rfl
  rw [text]
  simp only [shape, read_object (show 1 < depth by omega), fills.object inner, finish, List.tail_cons,
    built, bind, Except.bind]

end Layout

/-- What is read of the text of a value. -/
theorem Shape.Reads.parse {shape : Shape α} {levels : Nat} {value : Value} {a : α}
    (reads : shape.Reads levels value a) (flat : levels < maxDepth) :
    shape.parse (encode value.render) = .ok a := by
  have read := reads maxDepth [] flat (by rintro _ ⟨⟩)
  rw [List.append_nil] at read
  simp only [Shape.parse, readAll, read]
  rfl

end Heartbeat.Json
