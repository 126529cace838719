import Mathlib.Algebra.Group.Nat.Defs
import Heartbeat.Sim.Hosts

/-! What addresses the simulator's hosts have. An address tells its four numbers, so it is that of a host
in a network exactly if its numbers are; and the third number of a host goes on growing where the bytes end. -/
namespace Heartbeat.Sim

/-! ## Four numbers -/

/-- Four numbers in decimal, with dots between them. -/
def dotted (a b c d : Nat) : String :=
  toString a ++ "." ++ toString b ++ "." ++ toString c ++ "." ++ toString d

theorem toList_toString (n : Nat) : (toString n).toList = Nat.toDigits 10 n := String.toList_ofList

theorem isDigit_of_mem_toString {n : Nat} {c : Char} (member : c ∈ (toString n).toList) :
    c.isDigit = true :=
  Nat.isDigit_of_mem_toDigits (by decide) (Nat.le_refl 10) (toList_toString n ▸ member)

/-- A number is what its digits say. -/
theorem toList_toString_inj {m n : Nat} : (toString m).toList = (toString n).toList ↔ m = n := by
  have said (k : Nat) : Nat.ofDigitChars 10 (toString k).toList 0 = k := by
    rw [toList_toString, Nat.ofDigitChars_toDigits (by decide) (Nat.le_refl 10)]
  refine ⟨fun same => ?_, fun same => same ▸ rfl⟩
  rw [← said m, same, said n]

theorem dot_notMem_toString (n : Nat) : '.' ∉ (toString n).toList :=
  fun member => absurd (isDigit_of_mem_toString member) (by decide)

/-- What stands in front of the first dot can be told from a text. -/
theorem append_dot_inj {first second rest more : List Char} (solid : '.' ∉ first) (solid' : '.' ∉ second) :
    first ++ '.' :: rest = second ++ '.' :: more ↔ first = second ∧ rest = more := by
  constructor
  · intro same
    induction first generalizing second with
    | nil =>
      cases second with
      | nil => exact ⟨rfl, (List.cons.inj same).2⟩
      | cons d second => exact absurd (List.mem_cons.mpr (.inl (List.cons.inj same).1)) solid'
    | cons c first ih =>
      cases second with
      | nil => exact absurd (List.mem_cons.mpr (.inl (List.cons.inj same).1.symm)) solid
      | cons d second =>
        obtain ⟨rfl, tails⟩ := List.cons.inj same
        obtain ⟨rfl, rfl⟩ := ih (fun member => solid (.tail _ member))
          (fun member => solid' (.tail _ member)) tails
        exact ⟨rfl, rfl⟩
  · rintro ⟨rfl, rfl⟩
    rfl

/-- **The four numbers can be told from the text.** -/
theorem dotted_inj {a b c d a' b' c' d' : Nat} :
    dotted a b c d = dotted a' b' c' d' ↔ a = a' ∧ b = b' ∧ c = c' ∧ d = d' := by
  have whole (a b c d : Nat) : (dotted a b c d).toList = (toString a).toList ++ '.' ::
      ((toString b).toList ++ '.' :: ((toString c).toList ++ '.' :: (toString d).toList)) := by
    simp [dotted]
  rw [← String.toList_inj, whole, whole,
    append_dot_inj (dot_notMem_toString a) (dot_notMem_toString a'),
    append_dot_inj (dot_notMem_toString b) (dot_notMem_toString b'),
    append_dot_inj (dot_notMem_toString c) (dot_notMem_toString c'), toList_toString_inj,
    toList_toString_inj, toList_toString_inj, toList_toString_inj]

/-- An address of four bytes. -/
structure Quad where
  first : UInt8
  second : UInt8
  third : UInt8
  fourth : UInt8
  deriving DecidableEq, Repr

def Quad.render (q : Quad) : String :=
  dotted q.first.toNat q.second.toNat q.third.toNat q.fourth.toNat

/-- The address is one of a host in 192.168.0.0/16: its last number is neither the least nor the largest. -/
def Quad.IsHost (q : Quad) : Prop :=
  q.first = 192 ∧ q.second = 168 ∧ 1 ≤ q.fourth ∧ q.fourth ≤ 254

/-- The text is the address of a host in 192.168.0.0/16. -/
def IsHostAddress (text : String) : Prop := ∃ q : Quad, q.IsHost ∧ q.render = text

theorem isHostAddress_dotted (third fourth : Nat) :
    IsHostAddress (dotted 192 168 third fourth) ↔ third ≤ 255 ∧ 1 ≤ fourth ∧ fourth ≤ 254 := by
  constructor
  · rintro ⟨q, ⟨-, -, low, high⟩, same⟩
    obtain ⟨-, -, rfl, rfl⟩ := dotted_inj.mp same
    have bound := q.third.toNat_lt
    exact ⟨by omega, UInt8.le_iff_toNat_le.mp low, UInt8.le_iff_toNat_le.mp high⟩
  · rintro ⟨byte, low, high⟩
    have third_byte : (UInt8.ofNat third).toNat = third := UInt8.toNat_ofNat_of_lt' (Nat.lt_succ_of_le byte)
    have fourth_byte : (UInt8.ofNat fourth).toNat = fourth :=
      UInt8.toNat_ofNat_of_lt' (Nat.lt_of_le_of_lt high (by decide))
    refine ⟨⟨192, 168, .ofNat third, .ofNat fourth⟩, ⟨rfl, rfl, ?_, ?_⟩, ?_⟩
    · rw [UInt8.le_iff_toNat_le, fourth_byte]
      exact low
    · rw [UInt8.le_iff_toNat_le, fourth_byte]
      exact high
    · rw [Quad.render, third_byte, fourth_byte]
      rfl

/-! ## The hosts -/

/-- A host, counted from zero. -/
def hostIndex (n : UInt32) : UInt32 := if n = 0 then 0 else n - 1

theorem toNat_hostIndex (n : UInt32) : (hostIndex n).toNat = n.toNat - 1 := by
  unfold hostIndex
  split
  · next zero =>
    subst zero
    rfl
  · next positive =>
    have counted : (1 : UInt32).toNat ≤ n.toNat :=
      Nat.pos_of_ne_zero fun zero => positive (UInt32.toNat_inj.mp zero)
    rw [UInt32.toNat_sub_of_le _ _ (UInt32.le_iff_toNat_le.mpr counted)]
    rfl

/-- No sum in the address of a host wraps around: what is divided by 254 is far below the largest word. -/
theorem hostIndex_fits (n : UInt32) :
    (hostIndex n / 254).toNat + 1 < 2 ^ 32 ∧ (hostIndex n % 254).toNat + 1 < 2 ^ 32 := by
  have bound := (hostIndex n).toNat_lt
  rw [UInt32.toNat_div, UInt32.toNat_mod]
  simp only [UInt32.reduceToNat]
  omega

/-- The numbers of a host's address: 254 hosts to each third number, from one on. -/
theorem hostAddress_eq (n : UInt32) :
    hostAddress n = dotted 192 168 ((n.toNat - 1) / 254 + 1) ((n.toNat - 1) % 254 + 1) := by
  obtain ⟨third_fits, fourth_fits⟩ := hostIndex_fits n
  have third : (hostIndex n / 254 + 1).toNat = (n.toNat - 1) / 254 + 1 := by
    rw [UInt32.toNat_add, UInt32.toNat_one, Nat.mod_eq_of_lt third_fits, UInt32.toNat_div, toNat_hostIndex]
    rfl
  have fourth : (hostIndex n % 254 + 1).toNat = (n.toNat - 1) % 254 + 1 := by
    rw [UInt32.toNat_add, UInt32.toNat_one, Nat.mod_eq_of_lt fourth_fits, UInt32.toNat_mod, toNat_hostIndex]
    rfl
  rw [← third, ← fourth]
  rfl

/-- **The network ends at the 64770th host.** The address of every host is four numbers, the last of them
between 1 and 254; but the third goes on growing, so that only as many hosts as the network has room for
have an address in it, and a pool has an address for each of its hosts exactly if it is no larger. -/
theorem network_ends (hosts : UInt32) :
    (∀ n : UInt32, ∃ third fourth, hostAddress n = dotted 192 168 third fourth ∧
      third = (n.toNat - 1) / 254 + 1 ∧ 1 ≤ fourth ∧ fourth ≤ 254 ∧
      (IsHostAddress (hostAddress n) ↔ n.toNat ≤ 64770)) ∧
    ((∀ n : UInt32, 1 ≤ n → n ≤ hosts → IsHostAddress (hostAddress n)) ↔ hosts.toNat ≤ 64770) := by
  have valid (n : UInt32) : IsHostAddress (hostAddress n) ↔ n.toNat ≤ 64770 := by
    rw [hostAddress_eq, isHostAddress_dotted]
    omega
  refine ⟨fun n => ⟨_, _, hostAddress_eq n, rfl, by omega, by omega, valid n⟩, ?_⟩
  constructor
  · intro all
    by_cases none : hosts = 0
    · subst none
      decide
    · have counted : 1 ≤ hosts := UInt32.le_iff_toNat_le.mpr
        (Nat.pos_of_ne_zero fun zero => none (UInt32.toNat_inj.mp zero))
      exact (valid hosts).mp (all hosts counted (UInt32.le_refl hosts))
  · intro room n _ within
    exact (valid n).mpr (Nat.le_trans (UInt32.le_iff_toNat_le.mp within) room)

/-- The pool of the largest size that fits, its last host, and the one that would come next. -/
theorem last_host_inside :
    hostAddress 64770 = "192.168.255.254" ∧ IsHostAddress "192.168.255.254" ∧
    hostAddress 64771 = "192.168.256.1" ∧ ¬ IsHostAddress "192.168.256.1" := by
  have last : hostAddress 64770 = "192.168.255.254" := by decide +kernel
  have next : hostAddress 64771 = "192.168.256.1" := by decide +kernel
  obtain ⟨hosts, pools⟩ := network_ends 64770
  obtain ⟨-, -, -, -, -, -, valid⟩ := hosts 64771
  refine ⟨last, ?_, next, ?_⟩
  · rw [← last]
    exact pools.mpr (by decide) 64770 (by decide) (by decide)
  · rw [← next]
    exact fun inside => absurd (valid.mp inside) (by decide)

/-- The pool of hosts that starts behind the end of the network. -/
theorem host_outside_network :
    ¬ ∀ hosts n : UInt32, 1 ≤ hosts → 1 ≤ n → n ≤ hosts → IsHostAddress (hostAddress n) := by
  intro all
  have valid := all 64771 64771 (by decide) (by decide) (by decide)
  have outside : hostAddress 64771 = dotted 192 168 256 1 := by decide +kernel
  rw [outside, isHostAddress_dotted] at valid
  exact absurd valid.1 (by decide)

end Heartbeat.Sim
