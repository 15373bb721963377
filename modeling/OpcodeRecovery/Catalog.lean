import OpcodeRecovery.Shape

/-!
The catalog of recognizers, one for each opcode that can be recovered. Its order is that of
priority: some handlers have the shapes of several recognizers, and the first of them wins.
-/
namespace OpcodeRecovery

open Generated

/-- A shape that is too general to be trusted may belong to handlers of other opcodes as well. -/
inductive Confidence where
  | certain | uncertain
  deriving DecidableEq, Repr

structure Recognizer where
  opcode : Opcode
  shape : Shape
  confidence : Confidence := .certain
  deriving DecidableEq, Repr

namespace Recognizer

def accepts (r : Recognizer) (v : VirtualInstruction) : Bool := r.shape.accepts v

def text (r : Recognizer) : String :=
  match r.confidence with
  | .certain => r.opcode.mnemonic ++ ": " ++ r.shape.text
  | .uncertain => r.opcode.mnemonic ++ " (uncertain): " ++ r.shape.text

def dump (r : Recognizer) : String :=
  let confidence := match r.confidence with
    | .certain => "Certain"
    | .uncertain => "Uncertain"
  Structured.record "CatalogEntry"
    [("code", r.opcode.tag), ("signature", r.shape.dump), ("confidence", confidence)]

end Recognizer

/-- Helpers of additions and subtractions are told whether overflow is checked and whether the
    operands are unsigned, those of divisions and remainders whether the operands are unsigned, and
    that of shifts whether the sign is kept. -/
def catalog : List Recognizer := [
  ⟨.add, .discriminated addHelper [false, false], .certain⟩,
  ⟨.addOvf, .discriminated addHelper [true, false], .certain⟩,
  ⟨.addOvfUn, .discriminated addHelper [true, true], .certain⟩,
  ⟨.and, .indirect andHelper, .certain⟩,
  ⟨.bge, .delegating bgeStub lessThanHelper, .certain⟩,
  ⟨.blt, .delegating bltStub lessThanHelper, .certain⟩,
  ⟨.cgt, .delegating compareStub greaterThanHelper, .uncertain⟩,
  ⟨.clt, .delegating compareStub lessThanHelper, .certain⟩,
  ⟨.convR8, .opening convR8Stub, .uncertain⟩,
  ⟨.div, .discriminated divHelper [false], .certain⟩,
  ⟨.divUn, .discriminated divHelper [true], .certain⟩,
  ⟨.ldarg, .argumentLoad .word, .certain⟩,
  ⟨.ldargS, .argumentLoad .byte, .certain⟩,
  ⟨.ldarga, .argumentAddressLoad .word, .uncertain⟩,
  ⟨.ldargaS, .argumentAddressLoad .byte, .uncertain⟩,
  ⟨.ldarg0, .argumentIndexLoad .ldcI4_0, .certain⟩,
  ⟨.ldarg1, .argumentIndexLoad .ldcI4_1, .certain⟩,
  ⟨.ldarg2, .argumentIndexLoad .ldcI4_2, .certain⟩,
  ⟨.ldarg3, .argumentIndexLoad .ldcI4_3, .certain⟩,
  ⟨.ldcI4_0, .constantLoad .ldcI4_0, .certain⟩,
  ⟨.ldcI4_1, .constantLoad .ldcI4_1, .certain⟩,
  ⟨.ldcI4_2, .constantLoad .ldcI4_2, .certain⟩,
  ⟨.ldcI4_3, .constantLoad .ldcI4_3, .certain⟩,
  ⟨.ldcI4_4, .constantLoad .ldcI4_4, .certain⟩,
  ⟨.ldcI4_5, .constantLoad .ldcI4_5, .certain⟩,
  ⟨.ldcI4_6, .constantLoad .ldcI4_6, .certain⟩,
  ⟨.ldcI4_7, .constantLoad .ldcI4_7, .certain⟩,
  ⟨.ldcI4_8, .constantLoad .ldcI4_8, .certain⟩,
  ⟨.ldcI4M1, .constantLoad .ldcI4M1, .certain⟩,
  ⟨.or, .indirect orHelper, .certain⟩,
  ⟨.rem, .discriminated remHelper [false], .certain⟩,
  ⟨.remUn, .discriminated remHelper [true], .certain⟩,
  ⟨.shl, .indirect shlHelper, .certain⟩,
  ⟨.shr, .discriminated shrHelper [true], .certain⟩,
  ⟨.shrUn, .discriminated shrHelper [false], .certain⟩,
  ⟨.starg, .argumentStore .word, .certain⟩,
  ⟨.stargS, .argumentStore .byte, .certain⟩,
  ⟨.sub, .discriminated subHelper [false, false], .certain⟩,
  ⟨.subOvf, .discriminated subHelper [true, false], .certain⟩,
  ⟨.subOvfUn, .discriminated subHelper [true, true], .certain⟩,
  ⟨.xor, .indirect xorHelper, .certain⟩]

namespace Recognizer

def of? (c : Opcode) : Option Recognizer := catalog.find? fun r => r.opcode == c

def priority (r : Recognizer) : Nat := catalog.idxOf r

end Recognizer
end OpcodeRecovery
