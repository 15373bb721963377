import OpcodeRecovery.Opcode.Table
import OpcodeRecovery.Operand

/-!
Decoded instructions, and what a recognizer reads off one of them: the field or method it refers
to, the method it calls, the constant it pushes.
-/
namespace OpcodeRecovery

structure Instruction where
  opcode : Opcode
  operand : Operand := .absent
  deriving DecidableEq, Repr

namespace Instruction

def isCall (i : Instruction) : Bool := i.opcode.isCall

/-- The field referred to; a token of a table that holds no fields names none. -/
def field? (i : Instruction) : Option Token :=
  match i.operand with
  | .fieldRef token => if token.isFieldLike then some token else none
  | _ => none

def method? (i : Instruction) : Option Token :=
  match i.operand with
  | .methodRef token => if token.isMethodLike then some token else none
  | _ => none

def callTarget? (i : Instruction) : Option Token := if i.isCall then i.method? else none

/-- The integer constant pushed. A short form pushes its own constant whatever operand it carries;
    the two long forms push their operand. -/
def literal? (i : Instruction) : Option Int32 :=
  match i.opcode.shortLiteral? with
  | some value => some value
  | none =>
    match i.opcode, i.operand with
    | .ldcI4S, .immediate value | .ldcI4, .immediate value => value.int32?
    | _, _ => none

def truth? (i : Instruction) : Option Bool :=
  match i.literal? with
  | some 0 => some false
  | some 1 => some true
  | _ => none

theorem field?_eq_some_iff {i : Instruction} {t : Token} :
    i.field? = some t ↔ i.operand = .fieldRef t ∧ t.isFieldLike = true := by
  cases operand : i.operand with
  | fieldRef token =>
    have kept : i.field? = Option.guard Token.isFieldLike token := by simp [field?, operand]; rfl
    rw [kept, Option.guard_eq_some_iff, Operand.fieldRef.injEq]
    exact and_congr_right fun same => same ▸ Iff.rfl
  | _ => simp [field?, operand]

theorem method?_eq_some_iff {i : Instruction} {t : Token} :
    i.method? = some t ↔ i.operand = .methodRef t ∧ t.isMethodLike = true := by
  cases operand : i.operand with
  | methodRef token =>
    have kept : i.method? = Option.guard Token.isMethodLike token := by simp [method?, operand]; rfl
    rw [kept, Option.guard_eq_some_iff, Operand.methodRef.injEq]
    exact and_congr_right fun same => same ▸ Iff.rfl
  | _ => simp [method?, operand]

theorem truth?_eq_some_iff {i : Instruction} {b : Bool} :
    i.truth? = some b ↔ i.literal? = some (if b then 1 else 0) := by
  unfold truth?
  split
  · rename_i zero
    rw [zero]
    cases b <;> decide
  · rename_i one
    rw [one]
    cases b <;> decide
  · rename_i notZero notOne
    cases b with
    | false => exact iff_of_false nofun notZero
    | true => exact iff_of_false nofun notOne

theorem literal?_of_ne {i : Instruction} (notShort : i.opcode ≠ .ldcI4S)
    (notFull : i.opcode ≠ .ldcI4) : i.literal? = i.opcode.shortLiteral? := by
  unfold literal?
  split
  · rename_i value same
    exact same.symm
  · rename_i nothing
    rw [nothing]
    split
    · rename_i opcode _
      exact absurd opcode notShort
    · rename_i opcode _
      exact absurd opcode notFull
    · rfl

theorem isCall_of_callTarget? {i : Instruction} {t : Token} (called : i.callTarget? = some t) :
    i.isCall = true := by
  unfold callTarget? at called
  split at called
  · rename_i call
    exact call
  · cases called

def equals (a b : Instruction) : Bool := a.opcode == b.opcode && a.operand.equals b.operand

def text (i : Instruction) : String :=
  match i.operand.text? with
  | some operand => i.opcode.mnemonic ++ " " ++ operand
  | none => i.opcode.mnemonic

def dump (i : Instruction) : String :=
  Structured.record "Instruction" [("code", i.opcode.tag), ("operand", i.operand.dump)]

end Instruction
end OpcodeRecovery
