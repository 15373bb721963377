/-!
The opcodes of the Common Intermediate Language, without operands, in the order of their
encodings. They are the alphabet in which handler bodies are compared.
-/
namespace OpcodeRecovery

/-- An opcode. Short forms, such as a load of argument 0, are opcodes of their own; `unknown`
    stands for no opcode at all and is never decoded. -/
inductive Opcode where
  | nop | breakpoint | ldarg0 | ldarg1 | ldarg2 | ldarg3 | ldloc0 | ldloc1 | ldloc2 | ldloc3
  | stloc0 | stloc1 | stloc2 | stloc3 | ldargS | ldargaS | stargS | ldlocS | ldlocaS | stlocS
  | ldnull | ldcI4M1 | ldcI4_0 | ldcI4_1 | ldcI4_2 | ldcI4_3 | ldcI4_4 | ldcI4_5 | ldcI4_6
  | ldcI4_7 | ldcI4_8 | ldcI4S | ldcI4 | ldcI8 | ldcR4 | ldcR8 | dup | pop | jmp | call | calli
  | ret | brS | brfalseS | brtrueS | beqS | bgeS | bgtS | bleS | bltS | bneUnS | bgeUnS | bgtUnS
  | bleUnS | bltUnS | br | brfalse | brtrue | beq | bge | bgt | ble | blt | bneUn | bgeUn | bgtUn
  | bleUn | bltUn | switch | ldindI1 | ldindU1 | ldindI2 | ldindU2 | ldindI4 | ldindU4 | ldindI8
  | ldindI | ldindR4 | ldindR8 | ldindRef | stindRef | stindI1 | stindI2 | stindI4 | stindI8
  | stindR4 | stindR8 | add | sub | mul | div | divUn | rem | remUn | and | or | xor | shl | shr
  | shrUn | neg | not | convI1 | convI2 | convI4 | convI8 | convR4 | convR8 | convU4 | convU8
  | callvirt | cpobj | ldobj | ldstr | newobj | castclass | isinst | convRUn | unbox | throw
  | ldfld | ldflda | stfld | ldsfld | ldsflda | stsfld | stobj | convOvfI1Un | convOvfI2Un
  | convOvfI4Un | convOvfI8Un | convOvfU1Un | convOvfU2Un | convOvfU4Un | convOvfU8Un | convOvfIUn
  | convOvfUUn | box | newarr | ldlen | ldelema | ldelemI1 | ldelemU1 | ldelemI2 | ldelemU2
  | ldelemI4 | ldelemU4 | ldelemI8 | ldelemI | ldelemR4 | ldelemR8 | ldelemRef | stelemI
  | stelemI1 | stelemI2 | stelemI4 | stelemI8 | stelemR4 | stelemR8 | stelemRef | ldelem | stelem
  | unboxAny | convOvfI1 | convOvfU1 | convOvfI2 | convOvfU2 | convOvfI4 | convOvfU4 | convOvfI8
  | convOvfU8 | refanyval | ckfinite | mkrefany | ldtoken | convU2 | convU1 | convI | convOvfI
  | convOvfU | addOvf | addOvfUn | mulOvf | mulOvfUn | subOvf | subOvfUn | endfinally | leave
  | leaveS | stindI | convU | arglist | ceq | cgt | cgtUn | clt | cltUn | ldftn | ldvirtftn
  | ldarg | ldarga | starg | ldloc | ldloca | stloc | localloc | endfilter | unaligned | volatile
  | tail | initobj | constrained | cpblk | initblk | no | rethrow | sizeof | refanytype | readonly
  | unknown
  deriving DecidableEq, Repr

/-- The two opcodes that transfer control to a method named by a token. A call through a pointer
    and the construction of an object are not among them. -/
def Opcode.isCall : Opcode → Bool
  | .call | .callvirt => true
  | _ => false

theorem Opcode.isCall_iff {c : Opcode} : c.isCall = true ↔ c = .call ∨ c = .callvirt := by
  unfold isCall
  split
  · simp
  · simp
  · rename_i notCall notVirtual
    refine iff_of_false Bool.false_ne_true ?_
    intro either
    rcases either with same | same
    · exact notCall same
    · exact notVirtual same

def Opcode.shortLiteral? : Opcode → Option Int32
  | .ldcI4M1 => some (-1)
  | .ldcI4_0 => some 0
  | .ldcI4_1 => some 1
  | .ldcI4_2 => some 2
  | .ldcI4_3 => some 3
  | .ldcI4_4 => some 4
  | .ldcI4_5 => some 5
  | .ldcI4_6 => some 6
  | .ldcI4_7 => some 7
  | .ldcI4_8 => some 8
  | _ => none

end OpcodeRecovery
