import OpcodeRecovery.Opcode.Table
import OpcodeRecovery.Text.Structured

/-! Patterns: sequences of opcodes, as bodies are searched for them. -/
namespace OpcodeRecovery

abbrev Pattern := List Opcode

namespace Pattern

def text (p : Pattern) : String := Structured.list (p.map Opcode.mnemonic)

def dump (p : Pattern) : String := Structured.list (p.map Opcode.tag)

end Pattern
end OpcodeRecovery
