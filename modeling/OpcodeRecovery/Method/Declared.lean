import OpcodeRecovery.Method

/-!
A source of methods given by declarations, each of which may leave out what is not known. The last
declaration of a token holds. Bodies may be withdrawn later, while what was declared of return
types and callees stays.
-/
namespace OpcodeRecovery

structure Declaration where
  token : Token
  body? : Option Body
  returnType? : Option String
  callees? : Option (List Token)
  deriving DecidableEq, Repr

abbrev Declarations := List Declaration

namespace Declarations

def last? (ds : Declarations) (t : Token) : Option Declaration :=
  ds.reverse.find? fun d => d.token == t

def body? (ds : Declarations) (withdrawn : List Token) (t : Token) : Option Body :=
  if withdrawn.contains t then none else (ds.last? t).bind Declaration.body?

/-- Callees that are not declared are those of the body, and none once it is withdrawn. -/
def callees (ds : Declarations) (withdrawn : List Token) (t : Token) : List Token :=
  match (ds.last? t).bind Declaration.callees? with
  | some declared => declared
  | none => ((ds.body? withdrawn t).map Body.callees).getD []

def source (ds : Declarations) (withdrawn : List Token) : MethodSource where
  body? := ds.body? withdrawn
  returnType? t := (ds.last? t).bind Declaration.returnType?
  callees := ds.callees withdrawn

end Declarations
end OpcodeRecovery
