import OpcodeRecovery.Body

/-! Decoded methods, and what is asked of whoever decodes them. -/
namespace OpcodeRecovery

structure Method where
  token : Token
  name : String
  returnType : String
  body : Body
  deriving DecidableEq, Repr

def Method.equals (a b : Method) : Bool :=
  a.token == b.token && a.name == b.name && a.returnType == b.returnType && a.body.equals b.body

/-- The answers of a decoder. A method may be known without a body, and a body without a return
    type; the callees of a method are those of its body unless the source says otherwise. -/
structure MethodSource where
  body? : Token → Option Body
  returnType? : Token → Option String
  callees : Token → List Token := fun t => ((body? t).map Body.callees).getD []

end OpcodeRecovery
