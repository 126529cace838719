import Mathlib.Data.List.Basic
import Mathlib.Data.List.Forall2
import Mathlib.Data.List.Nodup

/-! Lists in general: a list with one place replaced, lists related one by one, and lists of lists without
repetitions. -/
namespace Heartbeat

/-- What a list gives through a filter changes by what one of its places gives. -/
theorem filterMap_set_perm {α β : Type} {f : α → Option β} {l : List α} {i : Nat} {old : α} (new : α)
    (at_ : l[i]? = some old) :
    ((f old).toList ++ (l.set i new).filterMap f).Perm ((f new).toList ++ l.filterMap f) := by
  induction l generalizing i with
  | nil => simp at at_
  | cons first rest ih =>
    cases i with
    | zero =>
      simp only [List.getElem?_cons_zero, Option.some.injEq] at at_
      subst at_
      simp only [List.set_cons_zero, List.filterMap_cons]
      cases f first <;> cases f new <;> simp [List.Perm.swap]
    | succ i =>
      have inner := ih (by simpa using at_)
      simp only [List.set_cons_succ, List.filterMap_cons]
      cases f first with
      | none => exact inner
      | some b => exact (List.perm_middle.trans (inner.cons b)).trans List.perm_middle.symm

/-- Lists that are related one by one to a list between them are related one by one. -/
theorem forall₂_comp {α β γ : Type} {R : α → β → Prop} {S : β → γ → Prop} {T : α → γ → Prop}
    (comp : ∀ {a b c}, R a b → S b c → T a c) {as : List α} {bs : List β} {cs : List γ}
    (first : List.Forall₂ R as bs) (second : List.Forall₂ S bs cs) : List.Forall₂ T as cs := by
  induction first generalizing cs with
  | nil =>
    cases second
    exact .nil
  | cons here _ ih =>
    cases second with
    | cons next others => exact .cons (comp here next) (ih others)

end Heartbeat
