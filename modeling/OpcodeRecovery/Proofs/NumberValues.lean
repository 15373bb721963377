import Mathlib.Algebra.Order.Field.Power
import Mathlib.Algebra.Order.Ring.Rat
import Mathlib.Tactic.Linarith
import OpcodeRecovery.Number.Binary

/-!
Equality of floating-point words, said by their values. Words are compared through the significand
and the exponent that they are read as; these are determined by the value, as the significand is
kept as great as the format allows. So words are equal exactly if they have one value. What is no
number has no value, and zero has one value under both signs.
-/
namespace OpcodeRecovery.Binary

inductive Value where
  | infinite (negative : Bool)
  | rational (value : ℚ)
  deriving DecidableEq

def magnitude (significand : Nat) (exponent : Int) : ℚ := significand * 2 ^ exponent

def Number.value? : Number → Option Value
  | .nan => none
  | .infinite negative => some (.infinite negative)
  | .finite negative significand exponent =>
    some (.rational (if negative then -magnitude significand exponent
      else magnitude significand exponent))

/-- A lesser exponent would do only with a significand that is too great. -/
structure Format.Canonical (f : Format) (significand : Nat) (exponent : Int) : Prop where
  bound : significand < 2 * f.hidden
  least : f.leastExponent ≤ exponent
  full : f.leastExponent < exponent → f.hidden ≤ significand

theorem magnitude_nonneg (significand : Nat) (exponent : Int) :
    0 ≤ magnitude significand exponent :=
  mul_nonneg (Nat.cast_nonneg significand) (zpow_nonneg (by norm_num) exponent)

theorem magnitude_eq_zero_iff {significand : Nat} {exponent : Int} :
    magnitude significand exponent = 0 ↔ significand = 0 := by
  have scale : (2 : ℚ) ^ exponent ≠ 0 := zpow_ne_zero exponent (by norm_num)
  rw [magnitude, mul_eq_zero, Nat.cast_eq_zero]
  exact or_iff_left scale

theorem abs_signed_magnitude (negative : Bool) (significand : Nat) (exponent : Int) :
    |if negative then -magnitude significand exponent else magnitude significand exponent| =
      magnitude significand exponent := by
  have nonneg := magnitude_nonneg significand exponent
  cases negative with
  | true => rw [if_pos rfl, abs_neg, abs_of_nonneg nonneg]
  | false => rw [if_neg Bool.false_ne_true, abs_of_nonneg nonneg]

namespace Format
variable {f : Format} {m m' : Nat} {e e' : Int}

theorem hidden_pos (f : Format) : 0 < f.hidden := Nat.pow_pos (by decide)

theorem canonical_of_decode {word : Nat} {negative : Bool}
    (read : f.decode word = .finite negative m e) : f.Canonical m e := by
  have fraction : word % f.hidden < f.hidden := Nat.mod_lt _ f.hidden_pos
  simp only [decode] at read
  split at read
  · split at read <;> cases read
  · split at read
    · cases read
      exact ⟨by omega, by omega, by omega⟩
    · cases read
      exact ⟨by omega, by omega, by omega⟩

/-- The greater exponent has the hidden bit, and with it more than the other significand can make
    up for. -/
theorem Canonical.exponent_le (first : f.Canonical m e) (second : f.Canonical m' e')
    (same : magnitude m e = magnitude m' e') : e' ≤ e := by
  by_contra greater
  have steps : 1 ≤ e' - e := by omega
  have double : (2 : ℚ) ≤ 2 ^ (e' - e) := by
    calc (2 : ℚ) = 2 ^ (1 : Int) := (zpow_one 2).symm
      _ ≤ 2 ^ (e' - e) := zpow_le_zpow_right₀ (by norm_num) steps
  have scale : (2 : ℚ) ^ e ≠ 0 := zpow_ne_zero e (by norm_num)
  have split : (2 : ℚ) ^ e' = 2 ^ (e' - e) * 2 ^ e := by
    rw [← zpow_add₀ (by norm_num), Int.sub_add_cancel]
  have significands : (m : ℚ) = m' * 2 ^ (e' - e) := by
    rw [magnitude, magnitude, split, ← mul_assoc] at same
    exact mul_right_cancel₀ scale same
  have hidden : (f.hidden : ℚ) ≤ m' := by
    exact_mod_cast second.full (by have := first.least; omega)
  have bound : (m : ℚ) < 2 * f.hidden := by exact_mod_cast first.bound
  have grown : (m' : ℚ) * 2 ≤ m' * 2 ^ (e' - e) :=
    mul_le_mul_of_nonneg_left double (Nat.cast_nonneg m')
  linarith

theorem Canonical.eq_of_magnitude_eq (first : f.Canonical m e) (second : f.Canonical m' e')
    (same : magnitude m e = magnitude m' e') : m = m' ∧ e = e' := by
  have exponents : e = e' :=
    Int.le_antisymm (second.exponent_le first same.symm) (first.exponent_le second same)
  have scale : (2 : ℚ) ^ e' ≠ 0 := zpow_ne_zero e' (by norm_num)
  rw [magnitude, magnitude, exponents] at same
  exact ⟨by exact_mod_cast mul_right_cancel₀ scale same, exponents⟩

end Format

namespace Number

theorem equals_finite_iff {negative negative' : Bool} {m m' : Nat} {e e' : Int} :
    (finite negative m e).equals (finite negative' m' e') = true ↔
      (m = 0 ∧ m' = 0) ∨ (negative = negative' ∧ m = m' ∧ e = e') := by
  unfold equals
  split
  · rename_i nan
    cases nan
  · rename_i nan _
    cases nan
  · rename_i zero zero'
    cases zero
    cases zero'
    simp
  · rename_i nonzero
    rw [beq_iff_eq, finite.injEq]
    refine (or_iff_right ?_).symm
    intro zeros
    obtain ⟨rfl, rfl⟩ := zeros
    exact nonzero _ _ _ _ rfl rfl

theorem value?_finite_eq_iff {f : Format} {m m' : Nat} {e e' : Int} (first : f.Canonical m e)
    (second : f.Canonical m' e') (negative negative' : Bool) :
    (finite negative m e).value? = (finite negative' m' e').value? ↔
      (m = 0 ∧ m' = 0) ∨ (negative = negative' ∧ m = m' ∧ e = e') := by
  simp only [value?, Option.some.injEq, Value.rational.injEq]
  constructor
  · intro same
    have magnitudes := congrArg abs same
    rw [abs_signed_magnitude, abs_signed_magnitude] at magnitudes
    obtain ⟨rfl, rfl⟩ := first.eq_of_magnitude_eq second magnitudes
    by_cases zero : m = 0
    · exact .inl ⟨zero, zero⟩
    · refine .inr ⟨?_, rfl, rfl⟩
      have nonzero : magnitude m e ≠ 0 := mt magnitude_eq_zero_iff.mp zero
      have positive := lt_of_le_of_ne (magnitude_nonneg m e) nonzero.symm
      cases negative <;> cases negative' <;> simp at same ⊢ <;> linarith
  · rintro (⟨rfl, rfl⟩ | ⟨rfl, rfl, rfl⟩)
    · simp [magnitude]
    · rfl

end Number

theorem Format.equals_decode_iff (f : Format) (a b : Nat) :
    (f.decode a).equals (f.decode b) = true ↔
      ∃ x, (f.decode a).value? = some x ∧ (f.decode b).value? = some x := by
  cases first : f.decode a with
  | nan => simp [Number.equals, Number.value?]
  | infinite negative =>
    cases second : f.decode b with
    | infinite negative' =>
      simp only [Number.equals, Number.value?, beq_iff_eq, Number.infinite.injEq,
        Option.some.injEq, exists_eq_left', Value.infinite.injEq]
      exact eq_comm
    | _ => simp [Number.equals, Number.value?]
  | finite negative m e =>
    cases second : f.decode b with
    | finite negative' m' e' =>
      have compared := Number.value?_finite_eq_iff (canonical_of_decode first)
        (canonical_of_decode second) negative negative'
      rw [Number.equals_finite_iff, ← compared]
      exact ⟨fun same => ⟨_, rfl, same.symm⟩, fun ⟨_, value, value'⟩ => value.trans value'.symm⟩
    | _ => simp [Number.equals, Number.value?]

end OpcodeRecovery.Binary
