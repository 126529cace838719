import Mathlib.Data.String.Basic
import Heartbeat.Proofs.Json.Layout

/-! Values whose kind is not known beforehand. A text and an integer are read back as they were written, and
so is an object whose members stand in the order of their names; and whatever texts a value holds, it is
written on one line. -/
namespace Heartbeat.Json
open Text (encode)

/-! ## Reading back -/

theorem any_text_reads (text : String) : Shape.any.Reads 0 (.text text) (.text text) := by
  intro depth rest left ends
  obtain ⟨depth, rfl⟩ : ∃ n, depth = n + 1 := ⟨depth - 1, by omega⟩
  simp only [Shape.any, value, Value.render, encode_renderText,
    skipBlanks_cons (by decide : isBlank 0x22 = false), if_true, stringBody_escaped, bind, Except.bind,
    pure, Except.pure]

/-- An integer that was written is read as a number. -/
theorem any_int_reads {n : Int} (low : -9223372036854775808 ≤ n) (high : n < 18446744073709551616) :
    Shape.any.Reads 0 (.ofInt n) (.ofInt n) := by
  intro depth rest left ends
  obtain ⟨depth, rfl⟩ : ∃ k, depth = k + 1 := ⟨depth - 1, by omega⟩
  have read := number?_toString low high ends.apart
  have front := skipBlanks_toString n rest
  obtain ⟨b, more, start, numeric⟩ := encode_toString_cons n
  have other {c : UInt8} (sign : c ≠ 0x2D) (digit : isDigit c = false) : b ≠ c := by
    rintro rfl
    rcases numeric with minus | numeric
    · exact sign minus
    · rw [digit] at numeric
      cases numeric
  rw [start, List.cons_append] at read front
  simp only [Shape.any, value, Value.ofInt, Value.render, Number.render, start, List.cons_append, front,
    other (by decide : (0x22 : UInt8) ≠ 0x2D) rfl, other (by decide : (0x5B : UInt8) ≠ 0x2D) rfl,
    other (by decide : (0x7B : UInt8) ≠ 0x2D) rfl, other (by decide : (0x6E : UInt8) ≠ 0x2D) rfl,
    other (by decide : (0x74 : UInt8) ≠ 0x2D) rfl, other (by decide : (0x66 : UInt8) ≠ 0x2D) rfl,
    if_false, read, bind, Except.bind, pure, Except.pure]

/-- A name behind all others goes to the end. -/
theorem insertMember_last {name : String} {value : α} {held : List (String × α)}
    (last : ∀ member ∈ held, member.1 < name) :
    insertMember name value held = held ++ [(name, value)] := by
  induction held with
  | nil => rfl
  | cons first rest ih =>
    obtain ⟨other, was⟩ := first
    have before : other < name := last (other, was) (.head _)
    have unlike : name ≠ other := fun same => String.lt_irrefl other (same ▸ before)
    rw [insertMember, if_neg unlike, if_neg (lt_asymm before), List.cons_append,
      ih fun member later => last member (.tail _ later)]

/-- A member is found under its name, and the others where they were. -/
theorem lookup_insertMember (name other : String) (value : α) (held : List (String × α)) :
    (insertMember name value held).lookup other =
      if other = name then some value else held.lookup other := by
  induction held with
  | nil => grind [insertMember]
  | cons first rest ih =>
    obtain ⟨known, was⟩ := first
    grind [insertMember]

/-- What becomes of the members that are held when others are read. -/
def insertMembers (held members : List (String × α)) : List (String × α) :=
  members.foldl (fun held member => insertMember member.1 member.2 held) held

theorem insertMembers_sorted {held members : List (String × α)}
    (sorted : (held ++ members).Pairwise fun one other => one.1 < other.1) :
    insertMembers held members = held ++ members := by
  induction members generalizing held with
  | nil => simp [insertMembers]
  | cons member members ih =>
    have last : ∀ other ∈ held, other.1 < member.1 := fun other present =>
      (List.pairwise_append.mp sorted).2.2 other present member (.head _)
    rw [List.append_cons, ← insertMember_last last] at sorted ⊢
    exact ih sorted

/-- Reads a member of an object of any values. -/
def anyMember (depth : Nat) (name : String) (held : List (String × Value)) :
    Reader (List (String × Value)) := fun text => do
  let (item, rest) ← value depth (← colon text)
  return (insertMember name item held, rest)

/-- One member is read, and put into its place. -/
theorem anyMember_reads {depth levels : Nat} (left : levels < depth) {name : String} {item : Value}
    {held : List (String × Value)} (reads : Shape.any.Reads levels item item) {rest : Bytes}
    (ends : Ends rest) :
    anyMember depth name held (0x3A :: (encode item.render ++ rest)) =
      .ok (insertMember name item held, rest) := by
  have read : value depth (encode item.render ++ rest) = .ok (item, rest) := reads depth rest left ends
  simp only [anyMember, colon_here, read, bind, Except.bind, pure, Except.pure]

variable {depth levels : Nat} {held members : List (String × Value)}

/-- The members behind another one are read, up to the brace. -/
theorem any_later (left : levels < depth)
    (reads : ∀ member ∈ members, Shape.any.Reads levels member.2 member.2) {fuel : Nat}
    (enough : members.length < fuel) (rest : Bytes) :
    membersFrom (anyMember depth) fuel false held (behind members rest) =
      .ok (insertMembers held members, 0x7D :: rest) := by
  induction members generalizing held fuel with
  | nil =>
    obtain ⟨fuel, rfl⟩ : ∃ n, fuel = n + 1 := ⟨fuel - 1, by simp at enough; omega⟩
    show membersFrom _ _ _ _ (0x7D :: rest) = _
    simp only [membersFrom, Layout.nextKey_done, bind, Except.bind, pure, Except.pure, insertMembers,
      List.foldl_nil]
  | cons member members ih =>
    obtain ⟨name, item⟩ := member
    obtain ⟨fuel, rfl⟩ : ∃ n, fuel = n + 1 := ⟨fuel - 1, by simp at enough; omega⟩
    have text : behind ((name, item) :: members) rest =
        0x2C :: 0x22 :: (encode (String.join (name.toList.map escapeChar)) ++
          0x22 :: 0x3A :: (encode item.render ++ behind members rest)) := by
      rw [behind, renderMembers, List.flatMap_cons, List.append_assoc, List.cons_append, ← behind,
        encode_member]
    rw [text, membersFrom_more (Layout.nextKey_later _),
      anyMember_reads left (reads (name, item) (.head _)) (behind_ends members rest)]
    exact ih (fun member later => reads member (.tail _ later)) (by simpa using enough)

/-- An object is read member by member, where one level is left for the object itself. -/
theorem value_object (left : 0 < depth) (text : Bytes) :
    value (depth + 1) (0x7B :: text) =
      Json.members (anyMember depth) [] text >>= fun (held, rest) => .ok (.object held, rest.tail) := by
  have entered (text : Bytes) : enter (depth + 1) text = .ok depth := if_neg (by omega)
  simp only [value, skipBlanks_cons (by decide : isBlank 0x7B = false), entered,
    if_neg (by decide : ¬ (0x7B : UInt8) = 0x22), if_neg (by decide : ¬ (0x7B : UInt8) = 0x5B), if_true]
  rfl

/-- An object is read with its members put into their places, if each of them survives being written. -/
theorem any_object_gathers (reads : ∀ member ∈ members, Shape.any.Reads levels member.2 member.2) :
    Shape.any.Reads (levels + 1) (.object members) (.object (insertMembers [] members)) := by
  intro depth rest left ends
  obtain ⟨depth, rfl⟩ : ∃ n, depth = n + 1 := ⟨depth - 1, by omega⟩
  have inner : levels < depth := by omega
  have text : encode (Value.object members).render ++ rest =
      0x7B :: (encode (",".intercalate (renderMembers members)) ++ 0x7D :: rest) := by
    rw [Value.render, Text.encode_append, Text.encode_append, List.append_assoc, List.append_assoc]
    rfl
  have inside : Json.members (anyMember depth) []
      (encode (",".intercalate (renderMembers members)) ++ 0x7D :: rest) =
        .ok (insertMembers [] members, 0x7D :: rest) := by
    unfold Json.members
    cases members with
    | nil =>
      show membersFrom _ _ _ _ (0x7D :: rest) = _
      simp only [membersFrom, Layout.nextKey_done, bind, Except.bind, pure, Except.pure, insertMembers,
        List.foldl_nil]
    | cons member members =>
      obtain ⟨name, item⟩ := member
      rw [renderMembers, encode_intercalate, List.append_assoc, ← behind, encode_member,
        membersFrom_more (Layout.nextKey_first _),
        anyMember_reads inner (reads (name, item) (.head _)) (behind_ends members rest)]
      refine any_later inner (fun member later => reads member (.tail _ later)) ?_ rest
      have short := length_lt_behind members rest
      simp only [List.length_cons, List.length_append]
      omega
  simp only [Shape.any, text, value_object (show 0 < depth by omega), inside]
  rfl

/-- **An object survives being written** if its members do and stand in the order of their names. -/
theorem any_object_reads (reads : ∀ member ∈ members, Shape.any.Reads levels member.2 member.2)
    (sorted : members.Pairwise fun one other => one.1 < other.1) :
    Shape.any.Reads (levels + 1) (.object members) (.object members) := by
  have gathers := any_object_gathers reads
  rwa [insertMembers_sorted sorted, List.nil_append] at gathers

/-! ## One line -/

/-- The text has no newline. -/
def OneLine (text : String) : Prop := '\n' ∉ text.toList

instance (text : String) : Decidable (OneLine text) := inferInstanceAs (Decidable (¬ _))

theorem OneLine.append {left right : String} (first : OneLine left) (second : OneLine right) :
    OneLine (left ++ right) := by
  simpa [OneLine] using ⟨first, second⟩

theorem OneLine.join {texts : List String} (each : ∀ text ∈ texts, OneLine text) :
    OneLine (String.join texts) := by
  simpa [OneLine] using each

theorem OneLine.intercalate {separator : String} {texts : List String} (between : OneLine separator)
    (each : ∀ text ∈ texts, OneLine text) : OneLine (separator.intercalate texts) := by
  induction texts with
  | nil => simp [OneLine]
  | cons first others ih =>
    cases others with
    | nil => simpa using each first (.head _)
    | cons second others =>
      rw [String.intercalate_cons_cons]
      exact ((each first (.head _)).append between).append (ih fun text later => each text (.tail _ later))

/-- A newline is written as an escape, and no other character becomes one. -/
theorem oneLine_escapeChar (c : Char) : OneLine (escapeChar c) := by
  by_cases control : c.toNat < 0x20
  · obtain ⟨n, small, rfl⟩ : ∃ n < 0x20, c = Char.ofNat n :=
      ⟨c.toNat, control, (Char.ofNat_toNat c).symm⟩
    clear control
    interval_cases n <;> decide
  · by_cases quote : c = '"'
    · subst quote
      decide
    · by_cases backslash : c = '\\'
      · subst backslash
        decide
      · have solid : c ≠ '\n' := by
          rintro rfl
          exact control (by decide)
        rw [escapeChar_plain control quote backslash]
        simpa [OneLine, eq_comm] using solid

theorem oneLine_renderText (text : String) : OneLine (renderText text) := by
  have inside : OneLine (String.join (text.toList.map escapeChar)) := by
    refine OneLine.join fun part member => ?_
    obtain ⟨c, -, rfl⟩ := List.mem_map.mp member
    exact oneLine_escapeChar c
  have quote : OneLine "\"" := by decide
  exact (quote.append inside).append quote

theorem oneLine_ofInt (n : Int) : OneLine (Value.ofInt n).render := by
  have digits (n : Nat) : OneLine n.repr := by
    intro member
    rw [Nat.toList_repr] at member
    exact absurd (Nat.isDigit_of_mem_toDigits (by decide) (by decide) member) (by decide)
  rw [Value.ofInt, Value.render, Number.render, Int.toString_eq_repr, Int.repr_eq_if]
  split
  · exact digits _
  · exact OneLine.append (by decide) (digits _)

/-- An object is written on one line if its members are. -/
theorem oneLine_object {members : List (String × Value)}
    (each : ∀ member ∈ members, OneLine member.2.render) : OneLine (Value.object members).render := by
  have parts : ∀ part ∈ renderMembers members, OneLine part := by
    induction members with
    | nil => simp [renderMembers]
    | cons member members ih =>
      obtain ⟨name, item⟩ := member
      rintro part (_ | ⟨_, later⟩)
      · exact ((oneLine_renderText name).append (by decide)).append (each (name, item) (.head _))
      · exact ih (fun member later => each member (.tail _ later)) part later
  rw [Value.render]
  exact (OneLine.append (by decide) (.intercalate (by decide) parts)).append (by decide)

end Heartbeat.Json
