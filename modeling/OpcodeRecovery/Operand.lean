import OpcodeRecovery.Immediate
import OpcodeRecovery.Token

/-!
Operands of decoded instructions. References carry their kind, so that a field can be told from a
method without the tables they point into.
-/
namespace OpcodeRecovery

inductive Operand where
  | absent
  | immediate (value : Immediate)
  | target (offset : UInt32)
  | fieldRef (token : Token)
  | methodRef (token : Token)
  | typeRef (token : Token)
  | stringRef (token : Token)
  | localVar (index : UInt16)
  | argument (index : UInt16)
  | switch (offsets : List UInt32)
  deriving DecidableEq, Repr

namespace Operand

def equals : Operand → Operand → Bool
  | .immediate x, .immediate y => x.equals y
  | x, y => x == y

/-- The text of an operand in a listing. All references look alike there, and a switch shows only
    how many targets it has. -/
def text? : Operand → Option String
  | .absent => none
  | .immediate value => some value.dump
  | .target offset => some ("IL_" ++ Hex.text .upper 4 offset.toNat)
  | .fieldRef token | .methodRef token | .typeRef token | .stringRef token => some token.text
  | .localVar index => some ("V_" ++ toString index.toNat)
  | .argument index => some ("A_" ++ toString index.toNat)
  | .switch offsets => some (Structured.apply "switch" (toString offsets.length))

def dump : Operand → String
  | .absent => "None"
  | .immediate value => Structured.apply "Immediate" value.dump
  | .target offset => Structured.apply "Target" (toString offset.toNat)
  | .fieldRef token => Structured.apply "Field" token.dump
  | .methodRef token => Structured.apply "Method" token.dump
  | .typeRef token => Structured.apply "Type" token.dump
  | .stringRef token => Structured.apply "String" token.dump
  | .localVar index => Structured.apply "Local" (toString index.toNat)
  | .argument index => Structured.apply "Argument" (toString index.toNat)
  | .switch offsets =>
    Structured.apply "Switch" (Structured.list (offsets.map fun o => toString o.toNat))

end Operand
end OpcodeRecovery
