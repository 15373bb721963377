import OpcodeRecovery.Instruction

/-!
Bodies of methods, as lists of instructions, and the methods that a body calls. Each such method
is listed once, where it is called first.
-/
namespace OpcodeRecovery

abbrev Body := List Instruction

namespace Body

def opcodes (b : Body) : List Opcode := b.map Instruction.opcode

def callTargets (b : Body) : List Token := b.filterMap Instruction.callTarget?

def callees (b : Body) : List Token := b.callTargets.eraseDups

def equals : Body → Body → Bool
  | [], [] => true
  | i :: a, j :: b => i.equals j && equals a b
  | _, _ => false

@[simp] theorem opcodes_nil : opcodes [] = [] := rfl

@[simp] theorem opcodes_cons (i : Instruction) (b : Body) :
    opcodes (i :: b) = i.opcode :: opcodes b := rfl

@[simp] theorem opcodes_append (a b : Body) : opcodes (a ++ b) = opcodes a ++ opcodes b :=
  List.map_append

@[simp] theorem length_opcodes (b : Body) : b.opcodes.length = b.length := List.length_map _

@[simp] theorem mem_callees {b : Body} {t : Token} : t ∈ b.callees ↔ t ∈ b.callTargets :=
  List.mem_eraseDups

theorem callees_append (a b : Body) :
    callees (a ++ b) = a.callees ++ (b.callTargets.removeAll a.callTargets).eraseDups := by
  simp [callees, callTargets, List.eraseDups_append]

def texts (b : Body) : List String := b.map Instruction.text

def dump (b : Body) : String := Structured.list (b.map Instruction.dump)

end Body
end OpcodeRecovery
