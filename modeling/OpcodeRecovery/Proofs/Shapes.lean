import OpcodeRecovery.Shape
import OpcodeRecovery.Proofs.CallSites
import OpcodeRecovery.Proofs.Search

/-!
What the shapes say of a handler, as ways to take its body apart. A handler is accepted exactly if
its body can be taken apart in the way of the shape, for any source of methods and for any shape,
whether the catalog has it or not.
-/
namespace OpcodeRecovery

def MethodSource.Holds (s : MethodSource) (p : Pattern) (t : Token) : Prop :=
  ∃ b, s.body? t = some b ∧ ∃ x w y, p.Occurs b x w y

def VirtualInstruction.RefersToReturning (v : VirtualInstruction) (i : Instruction)
    (type : String) : Prop :=
  ∃ m, i.method? = some m ∧ v.context.methods.returnType? m = some type

def VirtualInstruction.RefersToArguments (v : VirtualInstruction) (i : Instruction) : Prop :=
  i.field? = some v.context.argumentsField

/-- How the body of a handler of each shape can be taken apart. -/
def Shape.Describes (s : Shape) (v : VirtualInstruction) : Prop :=
  match s with
  | .indirect helper => helper ≠ [] ∧ ∃ t ∈ v.callees, v.context.methods.Holds helper t
  | .discriminated helper flags =>
    helper ≠ [] ∧ ∃ t, v.body.PassesTo flags t ∧ v.context.methods.Holds helper t
  | .opening stub => ∃ rest, v.body.opcodes = stub ++ rest
  | .delegating stub helper =>
    (∃ rest, v.body.opcodes = stub ++ rest) ∧
      helper ≠ [] ∧ ∃ t ∈ v.callees, v.context.methods.Holds helper t
  | .argumentStore width =>
    (∃ x w y, Pattern.OccursFirst [.ldarg0, .ldfld, .ldloc0, .callvirt, .ldelem] v.body x w y ∧
      ∃ i, w[3]? = some i ∧ v.RefersToReturning i width.returnType) ∧
    ∃ rest, v.body.opcodes = rest ++ [.callvirt, .pop, .ret]
  | .argumentIndexLoad index =>
    (∃ rest, v.body.opcodes =
      [.ldarg0, .ldarg0, .ldfld, index, .ldelem, .callvirt, .call, .ret] ++ rest) ∧
    ∃ i, v.body[2]? = some i ∧ v.RefersToArguments i
  | .argumentAddressLoad width =>
    ∃ x w y, Pattern.OccursFirst [.ldloc1, .ldarg0, .ldfld, .ldloc0, .callvirt, .ldelem,
        .callvirt, .ldloc1, .call, .ret] v.body x w y ∧
      (∃ i, w[2]? = some i ∧ v.RefersToArguments i) ∧
      ∃ i, w[4]? = some i ∧ v.RefersToReturning i width.returnType
  | .argumentLoad width =>
    v.body.opcodes = [.ldarg1, .castclass, .stloc0, .ldarg0, .ldarg0, .ldfld, .ldloc0, .callvirt,
      .ldelem, .callvirt, .call, .ret] ∧
    (∃ i, v.body[7]? = some i ∧ v.RefersToReturning i width.returnType) ∧
    ∃ i, v.body[5]? = some i ∧ v.RefersToArguments i
  | .constantLoad constant =>
    v.body.opcodes = [.ldarg0, .newobj, .stloc0, .ldloc0, constant, .callvirt, .ldloc0, .call, .ret]

theorem MethodSource.bodyContains_iff {s : MethodSource} {p : Pattern} {t : Token} :
    s.bodyContains p t = true ↔ p ≠ [] ∧ s.Holds p t := by
  simp only [bodyContains, Option.any_eq_true, Body.contains_iff, Holds]
  constructor
  · intro found
    obtain ⟨b, known, nonempty, window⟩ := found
    exact ⟨nonempty, b, known, window⟩
  · intro held
    obtain ⟨nonempty, b, known, window⟩ := held
    exact ⟨b, known, nonempty, window⟩

theorem MethodSource.holds_iff {s : MethodSource} {p : Pattern} {t : Token} :
    s.Holds p t ↔ ∃ codes, (s.body? t).map Body.opcodes = some codes ∧ p <:+: codes := by
  simp only [Holds, ← Pattern.infix_opcodes_iff, Option.map_eq_some_iff]
  constructor
  · intro held
    obtain ⟨b, known, window⟩ := held
    exact ⟨b.opcodes, ⟨b, known, rfl⟩, window⟩
  · intro held
    obtain ⟨_, ⟨b, known, rfl⟩, window⟩ := held
    exact ⟨b, known, window⟩

namespace VirtualInstruction

theorem returns_iff {v : VirtualInstruction} {i : Instruction} {type : String} :
    v.returns i type = true ↔ v.RefersToReturning i type := by
  simp [returns, returnType?, RefersToReturning, Option.bind_eq_some_iff]

theorem isArgumentsField_iff {v : VirtualInstruction} {i : Instruction} :
    v.isArgumentsField i = true ↔ v.RefersToArguments i := by
  simp [isArgumentsField, isArgumentsToken, RefersToArguments, Option.any_eq_true]

theorem calleeContains_iff {v : VirtualInstruction} {p : Pattern} :
    v.calleeContains p = true ↔ p ≠ [] ∧ ∃ t ∈ v.callees, v.context.methods.Holds p t := by
  simp only [calleeContains, List.any_eq_true, MethodSource.bodyContains_iff]
  constructor
  · intro found
    obtain ⟨t, called, nonempty, held⟩ := found
    exact ⟨nonempty, t, called, held⟩
  · intro described
    obtain ⟨nonempty, t, called, held⟩ := described
    exact ⟨t, called, nonempty, held⟩

theorem flaggedCallContains_iff {v : VirtualInstruction} {p : Pattern} {flags : List Bool} :
    v.flaggedCallContains p flags = true ↔
      p ≠ [] ∧ ∃ t, v.body.PassesTo flags t ∧ v.context.methods.Holds p t := by
  simp only [flaggedCallContains, List.any_eq_true, Bool.and_eq_true,
    MethodSource.bodyContains_iff, ← Body.exists_callSite_passes_iff]
  constructor
  · intro found
    obtain ⟨s, listed, passed, nonempty, held⟩ := found
    exact ⟨nonempty, s.target, ⟨s, listed, passed, rfl⟩, held⟩
  · intro described
    obtain ⟨nonempty, t, ⟨s, listed, passed, rfl⟩, held⟩ := described
    exact ⟨s, listed, passed, nonempty, held⟩

end VirtualInstruction

theorem Body.startsWith_iff_append {b : Body} {p : Pattern} :
    b.startsWith p = true ↔ ∃ rest, b.opcodes = p ++ rest := by
  rw [startsWith_iff]
  exact ⟨fun ⟨rest, same⟩ => ⟨rest, same.symm⟩, fun ⟨rest, same⟩ => ⟨rest, same.symm⟩⟩

theorem Body.endsWith_iff_append {b : Body} {p : Pattern} :
    b.endsWith p = true ↔ ∃ rest, b.opcodes = rest ++ p := by
  rw [endsWith_iff]
  exact ⟨fun ⟨rest, same⟩ => ⟨rest, same.symm⟩, fun ⟨rest, same⟩ => ⟨rest, same.symm⟩⟩

namespace Shape
variable {v : VirtualInstruction}

theorem accepts_argumentStore_iff {width : AccessorWidth} :
    (argumentStore width).accepts v = true ↔ (argumentStore width).Describes v := by
  simp only [accepts, Describes, Bool.and_eq_true, Body.endsWith_iff_append,
    Body.any_find?_iff (p := Generated.argumentStore) (by decide), Window.get?,
    Option.any_eq_true, VirtualInstruction.returns_iff]
  rfl

theorem accepts_argumentIndexLoad_iff {index : Opcode} :
    (argumentIndexLoad index).accepts v = true ↔ (argumentIndexLoad index).Describes v := by
  simp only [accepts, Describes, Bool.and_eq_true, Body.startsWith_iff_append,
    Option.any_eq_true, VirtualInstruction.isArgumentsField_iff]
  rfl

theorem accepts_argumentAddressLoad_iff {width : AccessorWidth} :
    (argumentAddressLoad width).accepts v = true ↔ (argumentAddressLoad width).Describes v := by
  simp only [accepts, Describes, Bool.and_eq_true,
    Body.any_find?_iff (p := Generated.argumentAddressLoad) (by decide), Window.get?,
    Option.any_eq_true, VirtualInstruction.returns_iff, VirtualInstruction.isArgumentsField_iff]
  rfl

theorem accepts_argumentLoad_iff {width : AccessorWidth} :
    (argumentLoad width).accepts v = true ↔ (argumentLoad width).Describes v := by
  simp only [accepts, Describes, Bool.and_eq_true, Body.isExactly_iff, Option.any_eq_true,
    VirtualInstruction.returns_iff, VirtualInstruction.isArgumentsField_iff, and_assoc]
  rfl

theorem accepts_constantLoad_iff {constant : Opcode} :
    (constantLoad constant).accepts v = true ↔ (constantLoad constant).Describes v := by
  simp only [accepts, Describes, Body.isExactly_iff]
  rfl

/-- Every shape accepts exactly the handlers that it describes. -/
theorem accepts_iff_describes (s : Shape) (v : VirtualInstruction) :
    s.accepts v = true ↔ s.Describes v := by
  cases s with
  | indirect helper => exact VirtualInstruction.calleeContains_iff
  | discriminated helper flags => exact VirtualInstruction.flaggedCallContains_iff
  | opening stub => exact Body.startsWith_iff_append
  | delegating stub helper =>
    simp only [accepts, Describes, Bool.and_eq_true, Body.startsWith_iff_append,
      VirtualInstruction.calleeContains_iff]
  | argumentStore width => exact accepts_argumentStore_iff
  | argumentIndexLoad index => exact accepts_argumentIndexLoad_iff
  | argumentAddressLoad width => exact accepts_argumentAddressLoad_iff
  | argumentLoad width => exact accepts_argumentLoad_iff
  | constantLoad constant => exact accepts_constantLoad_iff

end Shape
end OpcodeRecovery
