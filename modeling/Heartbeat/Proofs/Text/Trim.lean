import Mathlib.Data.List.DropRight
import Heartbeat.Text.Blank

/-! What trimming leaves has no blank at either end: what is dropped in front ends before a character that is
no blank, and dropping behind it does not change what comes first. -/
namespace Heartbeat.Text

/-- The text is not empty, and has no blank at either end. -/
def Trimmed (text : String) : Prop :=
  text ≠ "" ∧ (∀ c ∈ text.toList.head?, isBlank c = false) ∧
    ∀ c ∈ text.toList.getLast?, isBlank c = false

theorem isBlank_head_trimStart {chars : List Char} {c : Char} (first : c ∈ (trimStart chars).head?) :
    isBlank c = false := by
  have solid := List.head?_dropWhile_not isBlank chars
  rw [← trimStart, Option.mem_def.mp first] at solid
  exact solid

theorem trimChars_eq (chars : List Char) : trimChars chars = (trimStart chars).rdropWhile isBlank := rfl

/-- What a text is trimmed to, unless that is nothing. -/
theorem trimmed_trim {text : String} (solid : trim text ≠ "") : Trimmed (trim text) := by
  refine ⟨solid, fun c first => ?_, fun c last => ?_⟩
  · rw [trim, String.toList_ofList, trimChars_eq] at first
    -- what is dropped behind leaves the first character where it is
    obtain ⟨dropped, whole⟩ := List.rdropWhile_prefix isBlank (l := trimStart text.toList)
    have start : c ∈ (trimStart text.toList).head? := by
      rw [← whole, List.head?_append, Option.mem_def.mp first]
      rfl
    exact isBlank_head_trimStart start
  · rw [trim, String.toList_ofList, trimChars, List.getLast?_reverse] at last
    exact isBlank_head_trimStart last

theorem trimStart_eq_self {chars : List Char} (solid : ∀ c ∈ chars.head?, isBlank c = false) :
    trimStart chars = chars := by
  cases chars with
  | nil => rfl
  | cons c chars => exact List.dropWhile_cons_of_neg (by simp [solid c rfl])

/-- **Trimming again changes nothing.** -/
theorem Trimmed.trim_eq {text : String} (trimmed : Trimmed text) : trim text = text := by
  obtain ⟨-, first, last⟩ := trimmed
  have front : trimStart text.toList = text.toList := trimStart_eq_self first
  have back : trimStart text.toList.reverse = text.toList.reverse :=
    trimStart_eq_self fun c member => last c (by rwa [List.head?_reverse] at member)
  rw [trim, trimChars, front, back, List.reverse_reverse, String.ofList_toList]

end Heartbeat.Text
