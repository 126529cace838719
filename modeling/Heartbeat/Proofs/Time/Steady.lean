import Heartbeat.Time.Steady

/-! A moment of the steady clock is a number of nanoseconds, and what is asked of the clock is addition, as far as
it counts. In whole seconds it counts as far as it has seconds left. -/
namespace Heartbeat.Time.Steady

variable {s t u : Steady} {millis n : Nat}

/-- The nanoseconds of a moment. -/
def total (t : Steady) : Int := t.seconds.toInt * 1000000000 + t.nanos.val

/-- Where the clock ends, in nanoseconds. -/
def ending : Int := (Int64.maxValue.toInt + 1) * 1000000000

/-- The whole seconds that the clock can still count. -/
def left (t : Steady) : Nat := (Int64.maxValue.toInt - t.seconds.toInt).toNat

theorem seconds_le (t : Steady) : t.seconds.toInt ≤ Int64.maxValue.toInt := by
  have bound := t.seconds.toInt_lt
  have last : Int64.maxValue.toInt = 2 ^ 63 - 1 := by decide
  omega

theorem left_eq (t : Steady) : (t.left : Int) = Int64.maxValue.toInt - t.seconds.toInt := by
  have bound := t.seconds_le
  unfold left
  omega

theorem total_lt (t : Steady) : t.total < ending := by
  have bound := t.seconds_le
  have nanos := t.nanos.isLt
  unfold total ending
  omega

/-- No two moments have the same nanoseconds. -/
theorem eq_of_total_eq (same : t.total = u.total) : t = u := by
  have nanos := t.nanos.isLt
  have nanos' := u.nanos.isLt
  unfold total at same
  have seconds : t.seconds = u.seconds := Int64.toInt_inj.mp (by omega)
  have rest : t.nanos = u.nanos := Fin.ext (by omega)
  cases t
  cases u
  simp_all

/-- Seconds are added exactly, or the clock does not count that far. -/
theorem afterSeconds?_eq_some_iff :
    t.afterSeconds? n = some u ↔ u.total = t.total + n * 1000000000 := by
  have low := t.seconds.le_toInt
  have last : Int64.maxValue.toInt = 2 ^ 63 - 1 := by decide
  unfold afterSeconds?
  split
  · rename_i counts
    have exact : (Int64.ofInt (t.seconds.toInt + n)).toInt = t.seconds.toInt + n :=
      Int64.toInt_ofInt_of_le (by omega) (by omega)
    have sum : total { t with seconds := .ofInt (t.seconds.toInt + n) } = t.total + n * 1000000000 := by
      simp only [total, exact]
      omega
    constructor
    · rintro ⟨⟩
      exact sum
    · intro later
      rw [Option.some.injEq]
      exact eq_of_total_eq (sum.trans later.symm)
  · rename_i beyond
    have bound := u.total_lt
    constructor
    · nofun
    · intro later
      unfold total ending at *
      omega

/-- Nanoseconds are added exactly, or the clock does not count that far. -/
theorem afterNanos?_eq_some_iff {n : Fin 1000000000} :
    t.afterNanos? n = some u ↔ u.total = t.total + n.val := by
  unfold afterNanos?
  split
  · rename_i fits
    have sum : total { t with nanos := ⟨t.nanos.val + n.val, fits⟩ } = t.total + n.val := by
      simp only [total]
      omega
    constructor
    · rintro ⟨⟩
      exact sum
    · intro later
      rw [Option.some.injEq]
      exact eq_of_total_eq (sum.trans later.symm)
  · rw [afterSeconds?_eq_some_iff]
    simp only [total]
    omega

/-- **Milliseconds are added exactly**, or the clock does not count that far. -/
theorem after?_eq_some_iff : t.after? millis = some u ↔ u.total = t.total + millis * 1000000 := by
  unfold after?
  rw [Option.bind_eq_some_iff]
  constructor
  · rintro ⟨s, seconds, nanos⟩
    rw [afterSeconds?_eq_some_iff] at seconds
    rw [afterNanos?_eq_some_iff] at nanos
    simp only [nanos, seconds]
    omega
  · intro later
    -- the seconds alone do not lead beyond what the clock counts
    have counts : t.seconds.toInt + (millis / 1000 : Nat) ≤ Int64.maxValue.toInt := by
      have bound := u.total_lt
      unfold total ending at *
      omega
    obtain ⟨s, seconds⟩ : ∃ s, t.afterSeconds? (millis / 1000) = some s := ⟨_, if_pos counts⟩
    refine ⟨s, seconds, afterNanos?_eq_some_iff.mpr ?_⟩
    rw [afterSeconds?_eq_some_iff] at seconds
    simp only [seconds, later]
    omega

/-- There is a moment of every later number of nanoseconds that the clock counts. -/
theorem exists_total_eq (t : Steady) {nanos : Int} (later : t.total ≤ nanos) (counts : nanos < ending) :
    ∃ u : Steady, u.total = nanos := by
  have low := t.seconds.le_toInt
  have last : Int64.maxValue.toInt = 2 ^ 63 - 1 := by decide
  unfold total at later
  unfold ending at counts
  refine ⟨⟨.ofInt (nanos / 1000000000), ⟨(nanos % 1000000000).toNat, by omega⟩⟩, ?_⟩
  have exact : (Int64.ofInt (nanos / 1000000000)).toInt = nanos / 1000000000 :=
    Int64.toInt_ofInt_of_le (by omega) (by omega)
  simp only [total, exact]
  omega

theorem isSome_after?_iff : (t.after? millis).isSome ↔ t.total + millis * 1000000 < ending := by
  rw [Option.isSome_iff_exists]
  simp only [after?_eq_some_iff]
  constructor
  · rintro ⟨u, later⟩
    exact later ▸ u.total_lt
  · exact t.exists_total_eq (by omega)

/-- **A timer can be set exactly if it has a period and the clock counts to its first tick.** -/
theorem isSome_firstTick?_iff :
    (t.firstTick? millis).isSome ↔ millis ≠ 0 ∧ t.total + millis * 1000000 < ending := by
  unfold firstTick?
  split
  · rename_i zero
    simp [zero]
  · rename_i period
    rw [isSome_after?_iff]
    simp [period]

/-- A period of whole seconds is counted as long as the clock has them left. -/
theorem isSome_firstTick?_seconds_iff (positive : n ≠ 0) : (t.firstTick? (n * 1000)).isSome ↔ n ≤ t.left := by
  have left := t.left_eq
  have nanos := t.nanos.isLt
  rw [isSome_firstTick?_iff]
  unfold total ending
  omega

end Heartbeat.Time.Steady
