import OpcodeRecovery.Pattern.Generated
import OpcodeRecovery.VirtualInstruction

/-!
Shapes of handlers. A shape says how a handler of some opcode is built; one evaluation serves all
recognizers, and a shape can be put into words.
-/
namespace OpcodeRecovery

open Generated

/-- The width of an argument index. It shows in the return type of the method that reads it. -/
inductive AccessorWidth where
  | word | byte
  deriving DecidableEq, Repr

namespace AccessorWidth

def returnType : AccessorWidth → String
  | .word => "System.UInt16"
  | .byte => "System.Byte"

def dump : AccessorWidth → String
  | .word => "Word"
  | .byte => "Byte"

end AccessorWidth

/-- `indirect`: a callee contains the helper. `discriminated`: a call passes the flags to a method
    that contains the helper. `opening`: the body starts with the stub. `delegating`: the body
    starts with the stub and a callee contains the helper. The others are those of handlers that load and
    store arguments or push constants. -/
inductive Shape where
  | indirect (helper : Pattern)
  | discriminated (helper : Pattern) (flags : List Bool)
  | opening (stub : Pattern)
  | delegating (stub helper : Pattern)
  | argumentStore (width : AccessorWidth)
  | argumentIndexLoad (index : Opcode)
  | argumentAddressLoad (width : AccessorWidth)
  | argumentLoad (width : AccessorWidth)
  | constantLoad (constant : Opcode)
  deriving DecidableEq, Repr

namespace Shape

/-- Whether the handler has the shape. Only the leftmost window of a pattern is looked at. -/
def accepts (s : Shape) (v : VirtualInstruction) : Bool :=
  match s with
  | .indirect helper => v.calleeContains helper
  | .discriminated helper flags => v.flaggedCallContains helper flags
  | .opening stub => v.body.startsWith stub
  | .delegating stub helper => v.body.startsWith stub && v.calleeContains helper
  | .argumentStore width =>
    (v.body.find? Generated.argumentStore).any (fun w =>
      (w.get? argumentStoreAccessor).any fun i => v.returns i width.returnType) &&
    v.body.endsWith argumentStoreTail
  | .argumentIndexLoad index =>
    v.body.startsWith (Generated.argumentIndexLoad.fill index) &&
    v.body[argumentIndexLoadField]?.any v.isArgumentsField
  | .argumentAddressLoad width =>
    (v.body.find? Generated.argumentAddressLoad).any fun w =>
      (w.get? argumentAddressLoadField).any v.isArgumentsField &&
      (w.get? argumentAddressLoadAccessor).any fun i => v.returns i width.returnType
  | .argumentLoad width =>
    v.body.isExactly Generated.argumentLoad &&
    (v.body[argumentLoadAccessor]?.any fun i => v.returns i width.returnType) &&
    v.body[argumentLoadField]?.any v.isArgumentsField
  | .constantLoad constant => v.body.isExactly (Generated.constantLoad.fill constant)

def flagsText (flags : List Bool) : String :=
  "(" ++ ", ".intercalate (flags.map Structured.truth) ++ ")"

def text : Shape → String
  | .indirect helper => "callee contains " ++ helper.text
  | .discriminated helper flags =>
    "call with flags " ++ flagsText flags ++ " to callee containing " ++ helper.text
  | .opening stub => "body starts with " ++ stub.text
  | .delegating stub helper => "body starts with " ++ stub.text ++ " and callee contains " ++ helper.text
  | .argumentStore width =>
    "body contains " ++ Generated.argumentStore.text ++ " with accessor returning " ++
      width.returnType ++ " and ends with " ++ argumentStoreTail.text
  | .argumentIndexLoad index =>
    "body starts with " ++ Generated.argumentIndexLoad.text ++ " where <constant> = " ++
      index.mnemonic ++ ", loading the argument field"
  | .argumentAddressLoad width =>
    "body contains " ++ Generated.argumentAddressLoad.text ++
      " loading the argument field, accessor returning " ++ width.returnType
  | .argumentLoad width =>
    "body is " ++ Generated.argumentLoad.text ++
      " loading the argument field, accessor returning " ++ width.returnType
  | .constantLoad constant =>
    "body is " ++ Generated.constantLoad.text ++ " where <constant> = " ++ constant.mnemonic

def dump : Shape → String
  | .indirect helper => Structured.record "Indirect" [("helper", helper.dump)]
  | .discriminated helper flags =>
    Structured.record "Discriminated"
      [("helper", helper.dump), ("flags", Structured.list (flags.map Structured.truth))]
  | .opening stub => Structured.record "Prefix" [("stub", stub.dump)]
  | .delegating stub helper => Structured.record "Stub" [("stub", stub.dump), ("helper", helper.dump)]
  | .argumentStore width => Structured.record "ArgumentStore" [("width", width.dump)]
  | .argumentIndexLoad index => Structured.record "ArgumentIndexLoad" [("index", index.tag)]
  | .argumentAddressLoad width => Structured.record "ArgumentAddressLoad" [("width", width.dump)]
  | .argumentLoad width => Structured.record "ArgumentLoad" [("width", width.dump)]
  | .constantLoad constant => Structured.record "ConstantLoad" [("constant", constant.tag)]

end Shape
end OpcodeRecovery
