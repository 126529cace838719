import Heartbeat.Json.Integers
import Heartbeat.Proofs.Json.Skipped
import Heartbeat.Proofs.Json.Yields

/-! What a record is read from, over all spellings. A shape is read from the phrases that mean one of its
values and from no others, wherever they stand; members of an object fill the draft of a record in the order
in which they stand, and those that nobody asked for leave it alone. -/
namespace Heartbeat.Json
open Text (encode)

variable {σ α β : Type} {rest rest' : Bytes}

/-! ## Plain values -/

/-- The phrase is a string that spells this text. -/
def Phrase.IsText (phrase : Phrase) (text : String) : Prop := ∃ q, phrase = .string q ∧ q.text? = some text

/-- The phrase is the number that is written for this integer. -/
def Phrase.IsInt64 (phrase : Phrase) (k : Int64) : Prop := ∃ n, phrase = .number n ∧ n.text = toString k.toInt

/-- The shape is read from the phrases that mean the value and from no others, wherever they stand. -/
def Shape.Understands (shape : Shape β) (Means : Phrase → β → Prop) : Prop :=
  ∀ depth (gap : Gap) (phrase : Phrase) {rest : Bytes}, Apart rest → ∀ b rest',
    shape.read depth (gap.bytes ++ (phrase.bytes ++ rest)) = .ok (b, rest') ↔ Means phrase b ∧ rest' = rest

theorem Shape.text_understands : Shape.text.Understands Phrase.IsText := by
  intro depth gap phrase rest apart value rest'
  obtain ⟨b, more, front, start, kind⟩ := phrase.front gap rest
  generalize gap.bytes ++ (phrase.bytes ++ rest) = text at front ⊢
  by_cases quote : b = 0x22
  · obtain ⟨q, rfl⟩ := kind.string.mp quote
    obtain ⟨-, rfl⟩ := List.cons.inj start
    have spells : (Phrase.string q).IsText value ↔ q.text? = some value := by simp [Phrase.IsText]
    rw [spells, ← q.stringBody_body rest]
    simp only [Shape.text, textual, front, quote]
    cases stringBody (q.body ++ rest) <;> rfl
  · have unlike : ¬ phrase.IsText value := by
      rintro ⟨q, eq, -⟩
      exact quote (kind.string.mpr ⟨q, eq⟩)
    simp [Shape.text, textual, front, quote, unlike]

theorem int64?_eq_some {n : Int} {k : Int64} : int64? n = some k ↔ n = k.toInt := by
  have low := k.le_toInt
  have high := k.toInt_lt
  unfold int64?
  constructor
  · intro fits
    split at fits
    · rename_i bounds
      cases fits
      exact (Int64.toInt_ofInt_of_le (by omega) (by omega)).symm
    · cases fits
  · rintro rfl
    rw [if_pos (by omega), Int64.ofInt_toInt]

theorem number?_other {b : UInt8} (other : ¬ (b = 0x2D ∨ isDigit b = true)) (more : Bytes) :
    number? (b :: more) = none := by
  obtain ⟨sign, digit⟩ := not_or.mp other
  unfold number?
  split
  · rename_i eq
    exact absurd (List.cons.inj eq).1 sign
  · rename_i eq
    cases eq
    exact if_neg digit
  · rfl

theorem Shape.int64_understands : Shape.int64.Understands Phrase.IsInt64 := by
  intro depth gap phrase rest apart k rest'
  obtain ⟨b, more, front, start, kind⟩ := phrase.front gap rest
  generalize gap.bytes ++ (phrase.bytes ++ rest) = text at front ⊢
  by_cases numeric : b = 0x2D ∨ isDigit b = true
  · obtain ⟨n, rfl⟩ := kind.number.mp numeric
    have spells : (Phrase.number n).IsInt64 k ↔ n.text = toString k.toInt := by simp [Phrase.IsInt64]
    rw [spells]
    rw [← start, Phrase.bytes] at front
    simp only [Shape.int64, Shape.integer, front]
    constructor
    · intro ok
      obtain ⟨result, read, integer⟩ := n.number?_text apart
      rw [read] at ok
      obtain ⟨⟨number, rest''⟩, rfl, fitted⟩ := ok_of_bind ok
      cases number with
      | double => cases fitted
      | integer i =>
        obtain ⟨rfl, -, -, text⟩ := integer i rest'' rfl
        cases fits : int64? i with
        | none => simp [fits] at fitted
        | some j =>
          simp only [fits] at fitted
          cases fitted
          exact ⟨by rw [text, int64?_eq_some.mp fits], rfl⟩
    · rintro ⟨text, rfl⟩
      have low := k.le_toInt
      have high := k.toInt_lt
      rw [text, number?_toString (by omega) (by omega) apart]
      simp [bind, Except.bind, int64?_eq_some.mpr rfl, pure, Except.pure]
  · have unlike : ¬ phrase.IsInt64 k := by
      rintro ⟨n, eq, -⟩
      exact numeric (kind.number.mpr ⟨n, eq⟩)
    simp [Shape.int64, Shape.integer, front, number?_other numeric, unlike, bind, Except.bind]

/-! ## Fields -/

/-- The field is read into a draft from the phrases that take the draft there, and from no others. -/
def Field.Understands (field : Field σ) (Takes : σ → Phrase → σ → Prop) : Prop :=
  ∀ depth draft (gap : Gap) (phrase : Phrase) {rest : Bytes}, Apart rest → ∀ next rest',
    field.read depth draft (gap.bytes ++ (phrase.bytes ++ rest)) = .ok (next, rest') ↔
      Takes draft phrase next ∧ rest' = rest

theorem Field.ofShape_understands {name : String} {shape : Shape β} {get : σ → Option β} {set : σ → β → σ}
    {Means : Phrase → β → Prop} (understands : shape.Understands Means) :
    (Field.ofShape name shape get set).Understands fun draft phrase next =>
      ∃ b, Means phrase b ∧ next = set draft b := by
  intro depth draft gap phrase rest apart next rest'
  simp only [Field.ofShape]
  rw [bind_eq_ok_iff]
  constructor
  · rintro ⟨⟨b, rest''⟩, read, eq⟩
    obtain ⟨means, rfl⟩ := (understands depth gap phrase apart b rest'').mp read
    cases eq
    exact ⟨⟨b, means, rfl⟩, rfl⟩
  · rintro ⟨⟨b, means, rfl⟩, rfl⟩
    exact ⟨(b, rest'), (understands depth gap phrase apart b rest').mpr ⟨means, rfl⟩, rfl⟩

namespace Layout

variable {layout : Layout σ α}

/-- A member takes the draft of a record there: into the field of its name, which is not set yet, or nowhere
if no field has its name. -/
def Joins (layout : Layout σ α) (Takes : String → σ → Phrase → σ → Prop) (draft : σ) (member : Member Phrase)
    (next : σ) : Prop :=
  ∃ name, member.name? = some name ∧
    match layout.field? name with
    | none => next = draft
    | some field => field.isSet draft = false ∧ Takes name draft member.value.content next

/-- Members take the draft of a record there, one after another. -/
def Gathers (layout : Layout σ α) (Takes : String → σ → Phrase → σ → Prop) :
    σ → List (Member Phrase) → σ → Prop
  | draft, [], final => final = draft
  | draft, member :: members, final =>
    ∃ next, layout.Joins Takes draft member next ∧ layout.Gathers Takes next members final

/-- Items take the draft of a record there, one for each field. -/
def Lists (Takes : String → σ → Phrase → σ → Prop) : List (Field σ) → σ → List (Spaced Phrase) → σ → Prop
  | [], draft, [], final => final = draft
  | field :: fields, draft, item :: items, final =>
    ∃ next, Takes field.name draft item.content next ∧ Lists Takes fields next items final
  | _, _, _, _ => False

/-- What a record is spelled as: an object of its members in any order, or a list of its fields. -/
inductive Spells (layout : Layout σ α) (Takes : String → σ → Phrase → σ → Prop) : Phrase → α → Prop where
  | object {inner : Gap} {members : List (Member Phrase)} {draft : σ} {a : α}
      (gathers : layout.Gathers Takes layout.empty members draft) (built : layout.build draft = .ok a) :
      Spells layout Takes (.object inner members) a
  | list {inner : Gap} {items : List (Spaced Phrase)} {draft : σ} {a : α}
      (lists : Lists Takes layout.fields layout.empty items draft) (built : layout.build draft = .ok a) :
      Spells layout Takes (.list inner items) a

end Layout

/-! ## Where an item or a member starts -/

/-- The text of items or members from one of them on, with the comma in front unless it is the first. -/
def lead : Bool → Bytes → Bytes
  | true, text => text.tail
  | false, text => text

theorem colon_gap (gap : Gap) (text : Bytes) : colon (gap.bytes ++ 0x3A :: text) = .ok text := by
  have front : skipBlanks (gap.bytes ++ 0x3A :: text) = 0x3A :: text := gap.skipBlanks _
  simp only [colon, front, if_true]

section Items

variable (first : Bool) (gap before after : Gap) (item : Phrase) (items : List (Spaced Phrase)) (rest : Bytes)

theorem skipBlanks_end (b : UInt8) (solid : isBlank b = false) :
    skipBlanks (gap.bytes ++ (lead first [] ++ b :: rest)) = b :: rest := by
  rw [gap.skipBlanks]
  cases first <;> exact skipBlanks_cons solid rest

theorem skipBlanks_firstItem :
    skipBlanks (gap.bytes ++ (lead true (itemsBytes (⟨before, item, after⟩ :: items)) ++ 0x5D :: rest)) =
      item.bytes ++ (after.bytes ++ (itemsBytes items ++ 0x5D :: rest)) := by
  simp only [lead, itemsBytes, List.tail_cons, List.append_assoc]
  rw [gap.skipBlanks, before.skipBlanks, item.skipBlanks]

theorem skipBlanks_laterItem :
    skipBlanks (gap.bytes ++ (lead false (itemsBytes (⟨before, item, after⟩ :: items)) ++ 0x5D :: rest)) =
      0x2C :: (before.bytes ++ (item.bytes ++ (after.bytes ++ (itemsBytes items ++ 0x5D :: rest)))) := by
  simp only [lead, itemsBytes, List.cons_append, List.append_assoc]
  rw [gap.skipBlanks]
  rfl

theorem nextItem_nil :
    nextItem first (gap.bytes ++ (lead first (itemsBytes []) ++ 0x5D :: rest)) =
      .ok (.done (0x5D :: rest)) := by
  simp only [nextItem, itemsBytes, skipBlanks_end first gap rest 0x5D rfl, if_true]

theorem nextItem_cons :
    nextItem first (gap.bytes ++ (lead first (itemsBytes (⟨before, item, after⟩ :: items)) ++ 0x5D :: rest)) =
      .ok (.more (item.bytes ++ (after.bytes ++ (itemsBytes items ++ 0x5D :: rest)))) := by
  obtain ⟨b, more, front, start, kind⟩ :=
    item.front before (after.bytes ++ (itemsBytes items ++ 0x5D :: rest))
  obtain ⟨-, -, bracket, -⟩ := kind.opens
  cases first with
  | true => simp only [nextItem, skipBlanks_firstItem, start, bracket, if_false, if_true]
  | false =>
    simp only [nextItem, skipBlanks_laterItem, if_neg (by decide : ¬ (0x2C : UInt8) = 0x5D),
      Bool.false_eq_true, if_false, if_true]
    rw [front, start]
    exact if_neg bracket

/-- A list whose end is wanted ends where it has no items. -/
theorem closeList_lead {rest' : Bytes} :
    closeList (gap.bytes ++ (lead first (itemsBytes items) ++ 0x5D :: rest)) = .ok rest' ↔
      items = [] ∧ rest' = rest := by
  cases items with
  | nil => simp [closeList, itemsBytes, skipBlanks_end first gap rest 0x5D rfl, eq_comm]
  | cons item items =>
    obtain ⟨before, item, after⟩ := item
    obtain ⟨b, more, -, start, kind⟩ :=
      item.front before (after.bytes ++ (itemsBytes items ++ 0x5D :: rest))
    obtain ⟨-, comma, bracket, -⟩ := kind.opens
    cases first with
    | true => simp [closeList, skipBlanks_firstItem, start, bracket, comma]
    | false =>
      simp only [closeList, skipBlanks_laterItem, if_neg (by decide : ¬ (0x2C : UInt8) = 0x5D), if_true]
      split <;> simp

end Items

section Members

variable (first : Bool) (gap before behind front after : Gap) (key : Quoted) (value : Phrase)
  (members : List (Member Phrase)) (rest : Bytes)

theorem nextKey_nil :
    nextKey first (gap.bytes ++ (lead first (membersBytes []) ++ 0x7D :: rest)) =
      .ok (.done (0x7D :: rest)) := by
  simp only [nextKey, membersBytes, skipBlanks_end first gap rest 0x7D rfl, if_true]

theorem nextKey_cons :
    nextKey first (gap.bytes ++
        (lead first (membersBytes (⟨before, key, behind, front, value, after⟩ :: members)) ++ 0x7D :: rest)) =
      .ok (.more (key.body ++ (behind.bytes ++ 0x3A :: (front.bytes ++
        (value.bytes ++ (after.bytes ++ (membersBytes members ++ 0x7D :: rest))))))) := by
  generalize text : key.body ++ (behind.bytes ++ 0x3A :: (front.bytes ++
    (value.bytes ++ (after.bytes ++ (membersBytes members ++ 0x7D :: rest))))) = body
  have quote : skipBlanks (before.bytes ++ 0x22 :: body) = 0x22 :: body := before.skipBlanks _
  cases first with
  | true =>
    have found : skipBlanks (gap.bytes ++ (lead true
        (membersBytes (⟨before, key, behind, front, value, after⟩ :: members)) ++ 0x7D :: rest)) =
          0x22 :: body := by
      rw [gap.skipBlanks, ← quote, ← text]
      simp only [lead, membersBytes, List.tail_cons, List.append_assoc, List.cons_append]
    simp only [nextKey, found, if_neg (by decide : ¬ (0x22 : UInt8) = 0x7D), if_true]
  | false =>
    have found : skipBlanks (gap.bytes ++ (lead false
        (membersBytes (⟨before, key, behind, front, value, after⟩ :: members)) ++ 0x7D :: rest)) =
          0x2C :: (before.bytes ++ 0x22 :: body) := by
      rw [gap.skipBlanks, ← text]
      simp only [lead, membersBytes, List.append_assoc, List.cons_append]
      rfl
    simp only [nextKey, found, quote, if_neg (by decide : ¬ (0x2C : UInt8) = 0x7D), Bool.false_eq_true,
      if_false, if_true]

end Members

/-! ## Records -/

namespace Layout

variable {layout : Layout σ α} {Takes : String → σ → Phrase → σ → Prop}

/-- A member is read as it joins the draft. -/
theorem member_iff (each : ∀ field ∈ layout.fields, field.Understands (Takes field.name)) (depth : Nat)
    {name : String} (draft : σ) (behind front : Gap) (value : Phrase) (apart : Apart rest) {next : σ} :
    layout.member depth name draft (behind.bytes ++ 0x3A :: (front.bytes ++ (value.bytes ++ rest))) =
        .ok (next, rest') ↔
      (match layout.field? name with
        | none => next = draft
        | some field => field.isSet draft = false ∧ Takes name draft value next) ∧ rest' = rest := by
  unfold member
  cases known : layout.field? name with
  | none =>
    simp only [colon_gap, value.skip_bytes front apart, bind, Except.bind, pure, Except.pure]
    simp [eq_comm]
  | some field =>
    have named : field.name = name := by simpa using List.find?_some known
    have understands := each field (List.mem_of_find?_eq_some known) depth draft front value apart next rest'
    rw [named] at understands
    cases set : field.isSet draft with
    | true => simp [set]
    | false =>
      simp only [set, Bool.false_eq_true, if_false, colon_gap, true_and]
      exact understands

/-- The members of an object are read as they gather into the draft. -/
theorem membersFrom_iff (each : ∀ field ∈ layout.fields, field.Understands (Takes field.name)) (depth : Nat)
    {fuel : Nat} (first : Bool) (draft : σ) (gap : Gap) {members : List (Member Phrase)}
    (enough : members.length < fuel) {final : σ} :
    membersFrom (layout.member depth) fuel first draft
        (gap.bytes ++ (lead first (membersBytes members) ++ 0x7D :: rest)) = .ok (final, rest') ↔
      layout.Gathers Takes draft members final ∧ rest' = 0x7D :: rest := by
  induction members generalizing fuel first draft gap with
  | nil =>
    obtain ⟨fuel, rfl⟩ : ∃ n, fuel = n + 1 := ⟨fuel - 1, by simp at enough; omega⟩
    simp only [membersFrom, nextKey_nil, bind, Except.bind, pure, Except.pure, Gathers]
    simp [eq_comm]
  | cons member members ih =>
    obtain ⟨before, key, behind, front, value, after⟩ := member
    obtain ⟨fuel, rfl⟩ : ∃ n, fuel = n + 1 := ⟨fuel - 1, by simp at enough; omega⟩
    have apart := after.apart (membersBytes_apart members rest)
    have fewer : members.length < fuel := by simpa using enough
    -- one turn of the loop: the key is read, the member joins the draft, and the others follow
    have step : membersFrom (layout.member depth) (fuel + 1) first draft (gap.bytes ++
        (lead first (membersBytes (⟨before, key, behind, front, value, after⟩ :: members)) ++ 0x7D :: rest)) =
          stringBody (key.body ++ (behind.bytes ++ 0x3A :: (front.bytes ++ (value.bytes ++
            (after.bytes ++ (membersBytes members ++ 0x7D :: rest)))))) >>= fun named =>
              layout.member depth named.1 draft named.2 >>= fun joined =>
                membersFrom (layout.member depth) fuel false joined.1 joined.2 := by
      rw [membersFrom, nextKey_cons]
      rfl
    rw [step]
    constructor
    · intro read
      obtain ⟨⟨name, body⟩, spelled, read⟩ := ok_of_bind read
      obtain ⟨named, rfl⟩ := (key.stringBody_body _).mp spelled
      obtain ⟨⟨next, body⟩, joined, read⟩ := ok_of_bind read
      obtain ⟨joins, rfl⟩ := (member_iff each depth draft behind front value apart).mp joined
      obtain ⟨gathers, rfl⟩ := (ih false next after fewer).mp read
      exact ⟨⟨next, ⟨name, named, joins⟩, gathers⟩, rfl⟩
    · rintro ⟨⟨next, ⟨name, named, joins⟩, gathers⟩, rfl⟩
      have joined := (member_iff each depth draft behind front value apart).mpr ⟨joins, rfl⟩
      have read := (ih false next after fewer).mpr ⟨gathers, rfl⟩
      exact bind_eq_ok_iff.mpr ⟨_, (key.stringBody_body _).mpr ⟨named, rfl⟩,
        bind_eq_ok_iff.mpr ⟨_, joined, read⟩⟩

/-- A list is read as its items take the fields, one each. -/
theorem positional_iff (depth : Nat) {fields : List (Field σ)}
    (each : ∀ field ∈ fields, field.Understands (Takes field.name))
    (all : ∀ field ∈ fields, field.mayEnd = false) (index : Nat) (first : Bool) (draft : σ) (gap : Gap)
    {items : List (Spaced Phrase)} {final : σ} :
    (∃ behind, layout.positional depth fields index first draft
        (gap.bytes ++ (lead first (itemsBytes items) ++ 0x5D :: rest)) = .ok (final, behind) ∧
          closeList behind = .ok rest') ↔
      Lists Takes fields draft items final ∧ rest' = rest := by
  induction fields generalizing index first draft gap items with
  | nil =>
    constructor
    · rintro ⟨behind, passed, closed⟩
      cases passed
      obtain ⟨rfl, rfl⟩ := (closeList_lead first gap items rest).mp closed
      exact ⟨rfl, rfl⟩
    · rintro ⟨lists, rfl⟩
      cases items with
      | nil =>
        cases lists
        exact ⟨_, rfl, (closeList_lead first gap [] rest').mpr ⟨rfl, rfl⟩⟩
      | cons => exact lists.elim
  | cons field fields ih =>
    cases items with
    | nil =>
      have early : field.mayEnd = false := all field (.head _)
      simp only [positional, nextItem_nil, bind, Except.bind, early, Lists]
      simp
    | cons item items =>
      obtain ⟨before, item, after⟩ := item
      have apart := after.apart (itemsBytes_apart items rest)
      have understands := each field (.head _) depth draft {} item apart
      have others := ih (fun other later => each other (.tail _ later))
        (fun other later => all other (.tail _ later)) (index + 1) false
      have step : layout.positional depth (field :: fields) index first draft (gap.bytes ++
          (lead first (itemsBytes (⟨before, item, after⟩ :: items)) ++ 0x5D :: rest)) =
            field.read depth draft (item.bytes ++ (after.bytes ++ (itemsBytes items ++ 0x5D :: rest))) >>=
              fun passed => layout.positional depth fields (index + 1) false passed.1 passed.2 := by
        rw [positional, nextItem_cons]
        rfl
      rw [step]
      constructor
      · rintro ⟨behind, passed, closed⟩
        obtain ⟨⟨next, body⟩, read, passed⟩ := ok_of_bind passed
        obtain ⟨takes, rfl⟩ := (understands next body).mp read
        obtain ⟨lists, rfl⟩ := (others next after).mp ⟨behind, passed, closed⟩
        exact ⟨⟨next, takes, lists⟩, rfl⟩
      · rintro ⟨⟨next, takes, lists⟩, rfl⟩
        obtain ⟨behind, passed, closed⟩ := (others next after).mpr ⟨lists, rfl⟩
        exact ⟨behind, bind_eq_ok_iff.mpr ⟨_, (understands next _).mpr ⟨takes, rfl⟩, passed⟩, closed⟩

theorem finish_iff {draft : σ} {a : α} :
    layout.finish draft rest = .ok (a, rest') ↔ layout.build draft = .ok a ∧ rest' = rest := by
  unfold finish
  cases layout.build draft <;> simp [eq_comm]

theorem length_le_membersBytes (members : List (Member Phrase)) :
    members.length ≤ (membersBytes members).length := by
  induction members with
  | nil => exact Nat.zero_le _
  | cons member members ih =>
    simp only [membersBytes, List.length_cons, List.length_append]
    omega

/-- **A record is read from what spells it**, wherever that stands, and from no other value. -/
theorem read_iff (each : ∀ field ∈ layout.fields, field.Understands (Takes field.name))
    (all : ∀ field ∈ layout.fields, field.mayEnd = false) {depth : Nat} (left : 1 < depth) (gap : Gap)
    (phrase : Phrase) {a : α} :
    layout.read depth (gap.bytes ++ (phrase.bytes ++ rest)) = .ok (a, rest') ↔
      layout.Spells Takes phrase a ∧ rest' = rest := by
  obtain ⟨b, more, front, start, kind⟩ := phrase.front gap rest
  have entered (text : Bytes) : enter depth text = .ok (depth - 1) := if_neg (by omega)
  simp only [Layout.read, front, entered]
  -- the first byte tells an object from a list, and both from what is neither
  by_cases brace : b = 0x7B
  · obtain ⟨inner, members, rfl⟩ := kind.object.mp brace
    have inside : more = inner.bytes ++ (lead true (membersBytes members) ++ 0x7D :: rest) := by
      simpa [Phrase.bytes, lead] using (List.cons.inj start).2.symm
    have enough : members.length < more.length + 1 := by
      have short := length_le_membersBytes members
      simp only [inside, lead, List.length_append, List.length_tail, List.length_cons]
      omega
    have gathered (draft : σ) {behind : Bytes} :
        Json.members (layout.member (depth - 1)) layout.empty more = .ok (draft, behind) ↔
          layout.Gathers Takes layout.empty members draft ∧ behind = 0x7D :: rest := by
      rw [Json.members, inside]
      rw [inside] at enough
      exact membersFrom_iff each (depth - 1) true layout.empty inner enough
    rw [if_pos brace]
    change (Json.members (layout.member (depth - 1)) layout.empty more >>= fun gathered =>
      layout.finish gathered.1 gathered.2.tail) = .ok (a, rest') ↔ _
    constructor
    · intro read
      obtain ⟨⟨draft, behind⟩, passed, finished⟩ := ok_of_bind read
      obtain ⟨gathers, rfl⟩ := (gathered draft).mp passed
      obtain ⟨built, rfl⟩ := finish_iff.mp finished
      exact ⟨.object gathers built, rfl⟩
    · rintro ⟨spells, rfl⟩
      cases spells with
      | object gathers built =>
        exact bind_eq_ok_iff.mpr ⟨_, (gathered _).mpr ⟨gathers, rfl⟩, finish_iff.mpr ⟨built, rfl⟩⟩
  · by_cases bracket : b = 0x5B
    · obtain ⟨inner, items, rfl⟩ := kind.list.mp bracket
      have inside : more = inner.bytes ++ (lead true (itemsBytes items) ++ 0x5D :: rest) := by
        simpa [Phrase.bytes, lead] using (List.cons.inj start).2.symm
      have listed (draft : σ) {rest' : Bytes} :
          (∃ behind, layout.positional (depth - 1) layout.fields 0 true layout.empty
            (inner.bytes ++ (lead true (itemsBytes items) ++ 0x5D :: rest)) = .ok (draft, behind) ∧
              closeList behind = .ok rest') ↔
            Lists Takes layout.fields layout.empty items draft ∧ rest' = rest :=
        positional_iff (depth - 1) each all 0 true layout.empty inner
      rw [if_neg brace, if_pos bracket, inside]
      change (layout.positional (depth - 1) layout.fields 0 true layout.empty
        (inner.bytes ++ (lead true (itemsBytes items) ++ 0x5D :: rest)) >>= fun listed =>
          closeList listed.2 >>= layout.finish listed.1) = .ok (a, rest') ↔ _
      constructor
      · intro read
        obtain ⟨⟨draft, behind⟩, passed, read⟩ := ok_of_bind read
        obtain ⟨behind', closed, finished⟩ := ok_of_bind read
        obtain ⟨lists, rfl⟩ := (listed draft).mp ⟨behind, passed, closed⟩
        obtain ⟨built, rfl⟩ := finish_iff.mp finished
        exact ⟨.list lists built, rfl⟩
      · rintro ⟨spells, rfl⟩
        cases spells with
        | list lists built =>
          obtain ⟨behind, passed, closed⟩ := (listed _).mpr ⟨lists, rfl⟩
          exact bind_eq_ok_iff.mpr ⟨_, passed, bind_eq_ok_iff.mpr ⟨_, closed, finish_iff.mpr ⟨built, rfl⟩⟩⟩
    · have other : ¬ layout.Spells Takes phrase a := by
        intro spells
        cases spells with
        | object => exact brace (kind.object.mpr ⟨_, _, rfl⟩)
        | list => exact bracket (kind.list.mpr ⟨_, _, rfl⟩)
      rw [if_neg brace, if_neg bracket]
      simp [other]

/-- **A whole text is read as the record that it spells**: only blanks may stand around what spells it. -/
theorem parse_iff (each : ∀ field ∈ layout.fields, field.Understands (Takes field.name))
    (all : ∀ field ∈ layout.fields, field.mayEnd = false) (gap : Gap) (phrase : Phrase) {a : α} :
    layout.shape.parse (gap.bytes ++ (phrase.bytes ++ rest)) = .ok a ↔
      layout.Spells Takes phrase a ∧ ∀ b ∈ rest, isBlank b = true := by
  have read {a : α} {behind : Bytes} :
      layout.read maxDepth (gap.bytes ++ (phrase.bytes ++ rest)) = .ok (a, behind) ↔
        layout.Spells Takes phrase a ∧ behind = rest := read_iff each all (by decide) gap phrase
  have blank : skipBlanks rest = [] ↔ ∀ b ∈ rest, isBlank b = true := by
    simp [skipBlanks, List.dropWhile_eq_nil_iff]
  rw [← blank]
  simp only [Shape.parse, readAll, shape]
  constructor
  · intro parsed
    split at parsed
    · cases parsed
    · rename_i inside
      obtain ⟨spells, rfl⟩ := read.mp inside
      split at parsed
      · rename_i ends
        cases parsed
        exact ⟨spells, ends⟩
      · cases parsed
  · rintro ⟨spells, ends⟩
    rw [read.mpr ⟨spells, rfl⟩]
    simp only [ends]

end Layout

end Heartbeat.Json
