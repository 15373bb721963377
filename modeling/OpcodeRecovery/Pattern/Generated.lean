import OpcodeRecovery.Pattern.Template

/-!
The sequences that a generator of handlers emits. A helper is searched for in the methods that a
handler calls; a stub opens the handler itself. Families share a sequence, and their members
differ in the truth values passed to the helper, in the return type of an accessor, or in the
constant that fills a template. Positions are those of the loads and calls a shape looks at.
-/
namespace OpcodeRecovery.Generated

def andHelper : Pattern := [.ldlocS, .ldlocS, .and, .callvirt, .ldloc0, .ret]

def xorHelper : Pattern := [.ldlocS, .ldlocS, .xor, .callvirt, .ldloc0, .ret]

def orHelper : Pattern := [.ldlocS, .ldlocS, .or, .callvirt, .ldloc0, .ret]

def shlHelper : Pattern :=
  [.ldlocS, .ldlocS, .ldcI4S, .and, .shl, .stlocS, .newobj, .stloc0, .ldloc0, .ldlocS, .callvirt,
   .ldloc0, .ret]

def shrHelper : Pattern := [.ldcI4S, .and, .shr, .callvirt, .ldloc0, .ret]

def divHelper : Pattern := [.ldlocS, .ldlocS, .div, .callvirt, .ldloc0, .ret]

def remHelper : Pattern := [.ldlocS, .ldlocS, .rem, .callvirt, .ldloc0, .ret]

def addHelper : Pattern :=
  [.ldloc0, .ldloc1, .add, .stloc2, .newobj, .stloc3, .ldloc3, .ldloc2, .callvirt, .ldloc3, .ret]

def subHelper : Pattern :=
  [.ldloc0, .ldloc1, .sub, .stloc2, .newobj, .stloc3, .ldloc3, .ldloc2, .callvirt, .ldloc3, .ret]

def lessThanHelper : Pattern :=
  [.ldlocS, .ldlocS, .bltS, .ldlocS, .call, .brtrueS, .ldlocS, .call, .brS]

def greaterThanHelper : Pattern :=
  [.ldarg0, .castclass, .callvirt, .ldarg1, .castclass, .callvirt, .cgtUn, .stloc0]

def compareStub : Pattern :=
  [.call, .brtrueS, .ldcI4_0, .brS, .ldcI4_1, .callvirt, .ldloc2, .call, .ret]

def bgeStub : Pattern := [.call, .brtrueS, .ldarg1, .castclass]

def bltStub : Pattern := [.call, .brfalseS, .ldarg1, .castclass]

def convR8Stub : Pattern :=
  [.ldloc0, .callvirt, .call, .brtrueS, .ldloc0, .callvirt, .call, .brfalseS]

def argumentStore : Pattern := [.ldarg0, .ldfld, .ldloc0, .callvirt, .ldelem]

def argumentStoreAccessor : Nat := 3

def argumentStoreTail : Pattern := [.callvirt, .pop, .ret]

def argumentAddressLoad : Pattern :=
  [.ldloc1, .ldarg0, .ldfld, .ldloc0, .callvirt, .ldelem, .callvirt, .ldloc1, .call, .ret]

def argumentAddressLoadField : Nat := 2
def argumentAddressLoadAccessor : Nat := 4

def argumentLoad : Pattern :=
  [.ldarg1, .castclass, .stloc0, .ldarg0, .ldarg0, .ldfld, .ldloc0, .callvirt, .ldelem, .callvirt,
   .call, .ret]

def argumentLoadField : Nat := 5
def argumentLoadAccessor : Nat := 7

def argumentIndexLoad : Template :=
  [.fixed .ldarg0, .fixed .ldarg0, .fixed .ldfld, .constant, .fixed .ldelem, .fixed .callvirt,
   .fixed .call, .fixed .ret]

def argumentIndexLoadField : Nat := 2

def constantLoad : Template :=
  [.fixed .ldarg0, .fixed .newobj, .fixed .stloc0, .fixed .ldloc0, .constant, .fixed .callvirt,
   .fixed .ldloc0, .fixed .call, .fixed .ret]

end OpcodeRecovery.Generated
