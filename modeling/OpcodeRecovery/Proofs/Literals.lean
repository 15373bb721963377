import Mathlib.Algebra.Ring.Int.Defs
import OpcodeRecovery.Instruction

/-!
Literals, read by their exact values. A short form pushes the constant in its name. A long form
pushes the integer that its operand stands for, of whatever width, provided that it fits into 32
bits; what does not fit is no literal and is never cut down to one that does.
-/
namespace OpcodeRecovery

/-- The integer that a constant stands for. Floating-point constants stand for none, not even the
    whole ones. -/
inductive Immediate.Denotes : Immediate → Int → Prop where
  | int8 (value : Int8) : Denotes (.int8 value) value.toInt
  | uint8 (value : UInt8) : Denotes (.uint8 value) value.toNat
  | int32 (value : Int32) : Denotes (.int32 value) value.toInt
  | int64 (value : Int64) : Denotes (.int64 value) value.toInt

def Opcode.shortForms : List (Opcode × Int) := [
  (.ldcI4M1, -1), (.ldcI4_0, 0), (.ldcI4_1, 1), (.ldcI4_2, 2), (.ldcI4_3, 3), (.ldcI4_4, 4),
  (.ldcI4_5, 5), (.ldcI4_6, 6), (.ldcI4_7, 7), (.ldcI4_8, 8)]

/-- The ways to push a truth value: by the opcode alone, or by one of the long forms with a zero or
    a one of any width. -/
inductive Instruction.PushesTruth : Instruction → Bool → Prop where
  | short (b : Bool) (operand : Operand) :
      PushesTruth ⟨if b then .ldcI4_1 else .ldcI4_0, operand⟩ b
  | byte {value : Immediate} {b : Bool} (denotes : value.Denotes (if b then 1 else 0)) :
      PushesTruth ⟨.ldcI4S, .immediate value⟩ b
  | word {value : Immediate} {b : Bool} (denotes : value.Denotes (if b then 1 else 0)) :
      PushesTruth ⟨.ldcI4, .immediate value⟩ b

namespace Immediate
variable {i : Immediate} {n : Int}

theorem integer?_eq_some_iff : i.integer? = some n ↔ i.Denotes n := by
  constructor
  · intro read
    cases i with
    | int8 value => cases read; exact .int8 value
    | uint8 value => cases read; exact .uint8 value
    | int32 value => cases read; exact .int32 value
    | int64 value => cases read; exact .int64 value
    | float32 word => cases read
    | float64 word => cases read
  · intro denotes
    cases denotes <;> rfl

theorem fitsInt32_iff : fitsInt32 n = true ↔ -2 ^ 31 ≤ n ∧ n < 2 ^ 31 := by
  have least : Int32.minValue.toInt = -2 ^ 31 := rfl
  have greatest : Int32.maxValue.toInt = 2 ^ 31 - 1 := rfl
  simp only [fitsInt32, least, greatest, Bool.and_eq_true, decide_eq_true_eq]
  omega

theorem int32?_eq_some_iff :
    i.int32?.map Int32.toInt = some n ↔ i.Denotes n ∧ -2 ^ 31 ≤ n ∧ n < 2 ^ 31 := by
  simp only [int32?, Option.map_map, Option.map_eq_some_iff, Option.filter_eq_some_iff,
    integer?_eq_some_iff, fitsInt32_iff, Function.comp_apply]
  constructor
  · intro read
    obtain ⟨m, ⟨denotes, least, greatest⟩, same⟩ := read
    rw [Int32.toInt_ofInt_of_le least greatest] at same
    subst same
    exact ⟨denotes, least, greatest⟩
  · intro fits
    obtain ⟨denotes, least, greatest⟩ := fits
    exact ⟨n, ⟨denotes, least, greatest⟩, Int32.toInt_ofInt_of_le least greatest⟩

end Immediate

theorem Opcode.shortLiteral?_eq_some_iff {c : Opcode} {n : Int} :
    c.shortLiteral?.map Int32.toInt = some n ↔ (c, n) ∈ shortForms := by
  constructor
  · intro read
    unfold shortLiteral? at read
    split at read <;> cases read <;> decide
  · intro listed
    simp only [shortForms, List.mem_cons, Prod.mk.injEq, List.not_mem_nil, or_false] at listed
    rcases listed with ⟨rfl, rfl⟩ | ⟨rfl, rfl⟩ | ⟨rfl, rfl⟩ | ⟨rfl, rfl⟩ | ⟨rfl, rfl⟩ | ⟨rfl, rfl⟩ |
      ⟨rfl, rfl⟩ | ⟨rfl, rfl⟩ | ⟨rfl, rfl⟩ | ⟨rfl, rfl⟩ <;> rfl

namespace Instruction
variable {i : Instruction} {n : Int} {b : Bool}

theorem literal?_of_long (long : i.opcode = .ldcI4S ∨ i.opcode = .ldcI4) {value : Immediate}
    (operand : i.operand = .immediate value) : i.literal? = value.int32? := by
  obtain ⟨opcode, operand'⟩ := i
  subst operand
  rcases long with rfl | rfl <;> rfl

theorem exists_immediate_of_long (long : i.opcode = .ldcI4S ∨ i.opcode = .ldcI4)
    (read : i.literal?.isSome = true) : ∃ value, i.operand = .immediate value := by
  obtain ⟨opcode, operand⟩ := i
  cases operand with
  | immediate value => exact ⟨value, rfl⟩
  | _ => rcases long with rfl | rfl <;> cases read

/-- A short form is no long form, so only one side is ever looked at. -/
theorem literal?_eq_some_iff :
    i.literal?.map Int32.toInt = some n ↔
      (i.opcode, n) ∈ Opcode.shortForms ∨
        (i.opcode = .ldcI4S ∨ i.opcode = .ldcI4) ∧
          ∃ value, i.operand = .immediate value ∧ value.Denotes n ∧ -2 ^ 31 ≤ n ∧ n < 2 ^ 31 := by
  by_cases long : i.opcode = .ldcI4S ∨ i.opcode = .ldcI4
  · have unlisted : (i.opcode, n) ∉ Opcode.shortForms := by
      rcases long with same | same <;> simp [same, Opcode.shortForms]
    rw [or_iff_right unlisted, and_iff_right long]
    constructor
    · intro read
      have known : i.literal?.isSome = true := by
        rw [← Option.isSome_map (f := Int32.toInt), read, Option.isSome_some]
      obtain ⟨value, operand⟩ := exists_immediate_of_long long known
      rw [literal?_of_long long operand, Immediate.int32?_eq_some_iff] at read
      exact ⟨value, operand, read⟩
    · intro pushed
      obtain ⟨value, operand, fits⟩ := pushed
      rw [literal?_of_long long operand]
      exact Immediate.int32?_eq_some_iff.mpr fits
  · obtain ⟨notByte, notWord⟩ := not_or.mp long
    rw [literal?_of_ne notByte notWord, Opcode.shortLiteral?_eq_some_iff]
    exact (or_iff_left fun pushed => long pushed.1).symm

theorem truth?_eq_some_iff_literal? :
    i.truth? = some b ↔ i.literal?.map Int32.toInt = some (if b then 1 else 0) := by
  have value : (if b then 1 else 0 : Int) = Int32.toInt (if b then 1 else 0) := by
    cases b <;> rfl
  rw [truth?_eq_some_iff, value]
  cases i.literal? <;> simp [Int32.toInt_inj]

theorem truth?_eq_some_iff_pushesTruth : i.truth? = some b ↔ i.PushesTruth b := by
  rw [truth?_eq_some_iff_literal?, literal?_eq_some_iff]
  constructor
  · intro read
    obtain ⟨opcode, operand⟩ := i
    rcases read with short | ⟨rfl | rfl, value, rfl, denotes, _⟩
    · have named : opcode = if b then .ldcI4_1 else .ldcI4_0 := by
        cases b <;> simpa [Opcode.shortForms] using short
      rw [named]
      exact .short b operand
    · exact .byte denotes
    · exact .word denotes
  · intro pushes
    have fits : -2 ^ 31 ≤ (if b then 1 else 0 : Int) ∧ (if b then 1 else 0 : Int) < 2 ^ 31 := by
      cases b <;> decide
    cases pushes with
    | short b operand =>
      refine .inl ?_
      cases b <;> simp [Opcode.shortForms]
    | byte denotes => exact .inr ⟨.inl rfl, _, rfl, denotes, fits⟩
    | word denotes => exact .inr ⟨.inr rfl, _, rfl, denotes, fits⟩

end Instruction
end OpcodeRecovery
