import OpcodeRecovery.Body.CallSite
import OpcodeRecovery.Body.Search
import OpcodeRecovery.Method

/-!
Virtual instructions: a number given by a virtual machine together with the handler method that
implements it. What a recognizer asks of one is asked of the handler's body, or of the methods that
the body calls; no call is followed further, and methods without a body are passed over.
-/
namespace OpcodeRecovery

/-- What all virtual instructions of one machine share: the source of its methods, and the field in
    which it keeps the arguments of the method it runs. -/
structure Context where
  methods : MethodSource
  argumentsField : Token

structure VirtualInstruction where
  context : Context
  virtualCode : Int32
  handler : Token

inductive RecoveryError where
  | methodNotFound (handler : Token)
  | unidentified (instruction : VirtualInstruction)

namespace Context

def dump (c : Context) : String :=
  Structured.openRecord "VirtualizationContext" [("arguments_field", c.argumentsField.dump)]

def instruction (c : Context) (virtualCode : Int32) (handler : Token) :
    Except RecoveryError VirtualInstruction :=
  if (c.methods.body? handler).isSome then .ok ⟨c, virtualCode, handler⟩
  else .error (.methodNotFound handler)

/-- The first handler without a body fails them all. -/
def instructions (c : Context) (wanted : List (Int32 × Token)) :
    Except RecoveryError (List VirtualInstruction) :=
  wanted.mapM fun (virtualCode, handler) => c.instruction virtualCode handler

theorem instruction_eq_ok_iff {c : Context} {virtualCode : Int32} {handler : Token}
    {v : VirtualInstruction} :
    c.instruction virtualCode handler = .ok v ↔
      (c.methods.body? handler).isSome = true ∧ v = ⟨c, virtualCode, handler⟩ := by
  by_cases known : (c.methods.body? handler).isSome = true
  · simp [instruction, known, eq_comm]
  · simp [instruction, known]

theorem instruction_eq_error_iff {c : Context} {virtualCode : Int32} {handler : Token}
    {e : RecoveryError} :
    c.instruction virtualCode handler = .error e ↔
      (c.methods.body? handler).isSome = false ∧ e = .methodNotFound handler := by
  by_cases known : (c.methods.body? handler).isSome = true
  · simp [instruction, known]
  · simp [instruction, known, eq_comm]

end Context

def MethodSource.bodyContains (s : MethodSource) (p : Pattern) (t : Token) : Bool :=
  (s.body? t).any fun b => b.contains p

namespace VirtualInstruction

/-- A handler whose body is gone is treated as an empty one. -/
def body (v : VirtualInstruction) : Body := (v.context.methods.body? v.handler).getD []

theorem body_of_known {v : VirtualInstruction} {b : Body}
    (known : v.context.methods.body? v.handler = some b) : v.body = b := by
  rw [body, known, Option.getD_some]

def callees (v : VirtualInstruction) : List Token := v.context.methods.callees v.handler

def returnType? (v : VirtualInstruction) (i : Instruction) : Option String :=
  i.method?.bind v.context.methods.returnType?

def returns (v : VirtualInstruction) (i : Instruction) (type : String) : Bool :=
  v.returnType? i == some type

def isArgumentsToken (v : VirtualInstruction) (t : Token) : Bool := t == v.context.argumentsField

def isArgumentsField (v : VirtualInstruction) (i : Instruction) : Bool :=
  i.field?.any v.isArgumentsToken

def calleeContains (v : VirtualInstruction) (p : Pattern) : Bool :=
  v.callees.any (v.context.methods.bodyContains p)

def flaggedCallContains (v : VirtualInstruction) (p : Pattern) (flags : List Bool) : Bool :=
  v.body.callSites.any fun s => s.passes flags && v.context.methods.bodyContains p s.target

def text (v : VirtualInstruction) : String :=
  "virtual opcode " ++ toString v.virtualCode.toInt ++ " (handler " ++ v.handler.text ++ ")"

def dump (v : VirtualInstruction) : String :=
  Structured.openRecord "VirtualInstruction"
    [("virtual_code", toString v.virtualCode.toInt), ("handler", v.handler.dump)]

def inContext (v : VirtualInstruction) (c : Context) : VirtualInstruction := { v with context := c }

end VirtualInstruction

namespace RecoveryError

def message : RecoveryError → String
  | methodNotFound handler => "Failed to find method - " ++ handler.text
  | unidentified v => "Unable to identify the original opcode of " ++ v.text

def dump : RecoveryError → String
  | methodNotFound handler => Structured.apply "MethodNotFound" handler.dump
  | unidentified v => Structured.apply "OpcodeUnidentified" v.dump

end RecoveryError
end OpcodeRecovery
