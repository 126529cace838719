import Mathlib.Data.List.DropRight
import Mathlib.Tactic.SplitIfs
import Heartbeat.Json.Shape

/-! What a reader can give at all, whatever the text. A property that every step of a container keeps holds of
the container; so what is known of the shapes of the fields is known of a record. -/
namespace Heartbeat.Json

variable {σ α β ε : Type}

/-- What is returned was first computed and then carried on. -/
theorem ok_of_bind {x : Except ε α} {f : α → Except ε β} {b : β} (ok : x >>= f = .ok b) :
    ∃ a, x = .ok a ∧ f a = .ok b := by
  cases x with
  | error => cases ok
  | ok a => exact ⟨a, rfl, ok⟩

theorem bind_eq_ok_iff {x : Except ε α} {f : α → Except ε β} {b : β} :
    x >>= f = .ok b ↔ ∃ a, x = .ok a ∧ f a = .ok b := by
  refine ⟨ok_of_bind, ?_⟩
  rintro ⟨a, rfl, carried⟩
  exact carried

/-- Whatever the reader gives is like this. -/
def Yields (read : Reader α) (P : α → Prop) : Prop := ∀ text a rest, read text = .ok (a, rest) → P a

/-- Whatever is read of this shape is like this. -/
def Shape.Yields (shape : Shape α) (P : α → Prop) : Prop := ∀ depth, Json.Yields (shape.read depth) P

theorem Shape.yields_true (shape : Shape α) : shape.Yields fun _ => True := fun _ _ _ _ _ => trivial

/-! ## Containers -/

theorem itemsFrom_yields {item : σ → Reader σ} {P : σ → Prop}
    (keeps : ∀ state, P state → Yields (item state) P) (fuel : Nat) (first : Bool) {state : σ}
    (held : P state) : Yields (itemsFrom item fuel first state) P := by
  induction fuel generalizing first state with
  | zero => nofun
  | succ fuel ih =>
    intro text final rest read
    obtain ⟨next, -, read⟩ := ok_of_bind read
    cases next with
    | done =>
      cases read
      exact held
    | more =>
      obtain ⟨⟨state', rest'⟩, one, read⟩ := ok_of_bind read
      exact ih false (keeps state held _ _ _ one) _ _ _ read

theorem membersFrom_yields {member : String → σ → Reader σ} {P : σ → Prop}
    (keeps : ∀ name state, P state → Yields (member name state) P) (fuel : Nat) (first : Bool)
    {state : σ} (held : P state) : Yields (membersFrom member fuel first state) P := by
  induction fuel generalizing first state with
  | zero => nofun
  | succ fuel ih =>
    intro text final rest read
    obtain ⟨next, -, read⟩ := ok_of_bind read
    cases next with
    | done =>
      cases read
      exact held
    | more =>
      obtain ⟨⟨name, text'⟩, -, read⟩ := ok_of_bind read
      obtain ⟨⟨state', rest'⟩, one, read⟩ := ok_of_bind read
      exact ih false (keeps name state held _ _ _ one) _ _ _ read

theorem mem_insertMember {name : String} {value : α} {held : List (String × α)} {member : String × α}
    (mem : member ∈ insertMember name value held) : member = (name, value) ∨ member ∈ held := by
  induction held with
  | nil => exact .inl (List.mem_singleton.mp mem)
  | cons first rest ih =>
    obtain ⟨other, was⟩ := first
    simp only [insertMember] at mem
    split_ifs at mem
    · rcases List.mem_cons.mp mem with new | old
      · exact .inl new
      · exact .inr (.tail _ old)
    · exact (List.mem_cons.mp mem).imp_right id
    · rcases List.mem_cons.mp mem with same | later
      · exact .inr (same ▸ .head _)
      · exact (ih later).imp_right (.tail _)

theorem Shape.Yields.list {shape : Shape α} {P : α → Prop} (yields : shape.Yields P) :
    (Shape.list shape).Yields fun items => ∀ a ∈ items, P a := by
  intro depth text all rest read
  simp only [Shape.list] at read
  split at read
  · obtain ⟨inner, -, read⟩ := ok_of_bind read
    obtain ⟨⟨reversed, rest'⟩, passed, read⟩ := ok_of_bind read
    cases read
    obtain ⟨⟨state, behind⟩, inside, eq⟩ := ok_of_bind passed
    cases eq
    have each : ∀ a ∈ reversed, P a := by
      refine itemsFrom_yields (P := fun held => ∀ a ∈ held, P a) ?_ _ true (by simp) _ _ _ inside
      intro held before text held' rest step
      obtain ⟨⟨a, rest'⟩, one, eq⟩ := ok_of_bind step
      cases eq
      exact List.forall_mem_cons.mpr ⟨yields inner _ _ _ one, before⟩
    exact fun a member => each a (List.mem_reverse.mp member)
  · cases read

theorem Shape.Yields.mapping {shape : Shape α} {P : α → Prop} (yields : shape.Yields P) :
    (Shape.mapping shape).Yields fun members => ∀ member ∈ members, P member.2 := by
  intro depth text all rest read
  simp only [Shape.mapping] at read
  split at read
  · obtain ⟨inner, -, read⟩ := ok_of_bind read
    obtain ⟨⟨held, rest'⟩, inside, read⟩ := ok_of_bind read
    cases read
    refine membersFrom_yields (P := fun held => ∀ member ∈ held, P member.2) ?_ _ true (by simp) _ _ _ inside
    intro name held before text held' rest step
    obtain ⟨behind, -, step⟩ := ok_of_bind step
    obtain ⟨⟨a, rest'⟩, one, eq⟩ := ok_of_bind step
    cases eq
    intro member mem
    rcases mem_insertMember mem with rfl | old
    · exact yields inner _ _ _ one
    · exact before member old
  · cases read

/-! ## Values that may be null -/

theorem skipBlanks_skipBlanks (text : Bytes) : skipBlanks (skipBlanks text) = skipBlanks text :=
  List.dropWhile_idempotent _ text

/-- A value is null only if the word starts the text. -/
theorem value_ne_null {depth : Nat} {text rest : Bytes} {v : Value}
    (other : ∀ more, skipBlanks text ≠ 0x6E :: more) (read : value depth text = .ok (v, rest)) :
    v ≠ .null := by
  cases depth with
  | zero => cases read
  | succ depth =>
    simp only [value] at read
    split at read
    · cases read
    · rename_i b more eq
      have unlike : b ≠ 0x6E := fun same => other more (same ▸ eq)
      rw [if_neg unlike] at read
      split_ifs at read
      · obtain ⟨_, -, read⟩ := ok_of_bind read
        cases read
        nofun
      · obtain ⟨_, -, read⟩ := ok_of_bind read
        obtain ⟨_, -, read⟩ := ok_of_bind read
        cases read
        nofun
      · obtain ⟨_, -, read⟩ := ok_of_bind read
        obtain ⟨_, -, read⟩ := ok_of_bind read
        cases read
        nofun
      · obtain ⟨_, -, read⟩ := ok_of_bind read
        cases read
        nofun
      · obtain ⟨_, -, read⟩ := ok_of_bind read
        cases read
        nofun
      · split at read
        · obtain ⟨_, -, read⟩ := ok_of_bind read
          cases read
          nofun
        · cases read

/-- Null is read as nothing, so that what is read is not null. -/
theorem Shape.optional_any_yields : (Shape.optional .any).Yields (· ≠ some .null) := by
  intro depth text found rest read
  simp only [Shape.optional, Shape.any] at read
  split at read
  · obtain ⟨_, -, read⟩ := ok_of_bind read
    cases read
    nofun
  · rename_i other
    obtain ⟨⟨v, rest'⟩, inside, eq⟩ := ok_of_bind read
    cases eq
    -- the word was looked for at the first solid byte, which is where the value starts as well
    have solid := value_ne_null (fun more same => other more (by rwa [skipBlanks_skipBlanks] at same)) inside
    simpa using solid

/-! ## Records -/

/-- Reading the field into a draft keeps this. -/
def Field.Yields (field : Field σ) (P : σ → Prop) : Prop :=
  ∀ depth draft, P draft → Json.Yields (field.read depth draft) P

theorem Field.ofShape_yields {name : String} {shape : Shape β} {get : σ → Option β} {set : σ → β → σ}
    {P : σ → Prop} {Q : β → Prop} (yields : shape.Yields Q)
    (sets : ∀ draft b, P draft → Q b → P (set draft b)) : (Field.ofShape name shape get set).Yields P := by
  intro depth draft held text next rest read
  obtain ⟨⟨b, rest'⟩, inside, eq⟩ := ok_of_bind read
  cases eq
  exact sets draft b held (yields depth _ _ _ inside)

theorem Field.Yields.defaulted {field : Field σ} {P : σ → Prop} (yields : field.Yields P) :
    field.defaulted.Yields P := yields

namespace Layout

variable {layout : Layout σ α} {P : σ → Prop}

theorem positional_yields (fields : List (Field σ)) (each : ∀ field ∈ fields, field.Yields P)
    (depth index : Nat) (first : Bool) {draft : σ} (held : P draft) :
    Yields (layout.positional depth fields index first draft) P := by
  induction fields generalizing index first draft with
  | nil =>
    intro text final rest read
    cases read
    exact held
  | cons field fields ih =>
    have others : ∀ other ∈ fields, other.Yields P := fun other later => each other (.tail _ later)
    intro text final rest read
    obtain ⟨next, -, read⟩ := ok_of_bind read
    cases next with
    | done =>
      simp only at read
      split at read
      · exact ih others (index + 1) first held _ _ _ read
      · cases read
    | more =>
      obtain ⟨⟨draft', rest'⟩, one, read⟩ := ok_of_bind read
      exact ih others (index + 1) false (each field (.head _) depth draft held _ _ _ one) _ _ _ read

theorem member_yields (each : ∀ field ∈ layout.fields, field.Yields P) (depth : Nat) (name : String)
    {draft : σ} (held : P draft) : Yields (layout.member depth name draft) P := by
  intro text next rest read
  unfold member at read
  split at read
  · obtain ⟨_, -, read⟩ := ok_of_bind read
    obtain ⟨_, -, read⟩ := ok_of_bind read
    cases read
    exact held
  · rename_i field known
    split at read
    · cases read
    · obtain ⟨_, -, read⟩ := ok_of_bind read
      exact each field (List.mem_of_find?_eq_some known) depth draft held _ _ _ read

theorem finish_yields {R : α → Prop} (builds : ∀ draft a, P draft → layout.build draft = .ok a → R a)
    {draft : σ} (held : P draft) : Yields (layout.finish draft) R := by
  intro text a rest read
  unfold finish at read
  split at read
  · rename_i built
    cases read
    exact builds draft _ held built
  · cases read

/-- **What the fields keep of a draft holds of the record.** -/
theorem shape_yields {R : α → Prop} (each : ∀ field ∈ layout.fields, field.Yields P)
    (empty : P layout.empty) (builds : ∀ draft a, P draft → layout.build draft = .ok a → R a) :
    layout.shape.Yields R := by
  intro depth text a rest read
  simp only [shape, Layout.read] at read
  split at read
  · cases read
  · split_ifs at read
    · obtain ⟨inner, -, read⟩ := ok_of_bind read
      obtain ⟨⟨draft, rest'⟩, inside, read⟩ := ok_of_bind read
      have held := membersFrom_yields (fun name _ held => member_yields each inner name held) _ true
        empty _ _ _ inside
      exact finish_yields builds held _ _ _ read
    · obtain ⟨inner, -, read⟩ := ok_of_bind read
      obtain ⟨⟨draft, rest'⟩, inside, read⟩ := ok_of_bind read
      obtain ⟨_, -, read⟩ := ok_of_bind read
      exact finish_yields builds (positional_yields _ each inner 0 true empty _ _ _ inside) _ _ _ read

end Layout

/-- What is known of a shape is known of a whole text that is read. -/
theorem Shape.Yields.parse {shape : Shape α} {P : α → Prop} (yields : shape.Yields P) {text : Bytes} {a : α}
    (read : shape.parse text = .ok a) : P a := by
  simp only [Shape.parse, readAll] at read
  split at read
  · cases read
  · rename_i inside
    split at read
    · cases read
      exact yields _ _ _ _ inside
    · cases read

end Heartbeat.Json
