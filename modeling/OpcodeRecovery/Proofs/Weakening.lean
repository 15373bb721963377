import OpcodeRecovery.Proofs.Silence

/-!
Calls with fewer flags. What is passed at a call is read backwards from the call, so leaving out the
first flags asks for less at the same call site, and with no flags left any call will do. The
methods called are then found twice, at the call sites and among the callees, and both ways lead to
the same methods as long as the callees are those of the body.
-/
namespace OpcodeRecovery

def VirtualInstruction.ListsExactly (v : VirtualInstruction) : Prop :=
  ∀ t, t ∈ v.callees ↔ t ∈ v.body.callTargets

namespace Body
variable {b : Body} {t : Token}

theorem PassesTo.of_append {fs gs : List Bool} (passes : b.PassesTo (fs ++ gs) t) :
    b.PassesTo gs t := by
  obtain ⟨before, arguments, call, after, split, called, read⟩ := passes
  rw [List.map_append] at read
  obtain ⟨first, last, rfl, _, pushed⟩ := List.map_eq_append_iff.mp read
  -- What pushed the flags left out is now part of what stands before the arguments.
  exact ⟨before ++ first, last, call, after, by simp [split], called, pushed⟩

theorem passesTo_nil_iff : b.PassesTo [] t ↔ t ∈ b.callTargets := by
  constructor
  · exact mem_callTargets_of_passesTo
  · intro called
    obtain ⟨call, member, target⟩ := List.mem_filterMap.mp called
    obtain ⟨before, after, split⟩ := List.append_of_mem member
    exact ⟨before, [], call, after, by simp [split], target, rfl⟩

end Body

namespace VirtualInstruction
variable {v : VirtualInstruction} {p : Pattern}

theorem flaggedCallContains_of_append {fs gs : List Bool}
    (found : v.flaggedCallContains p (fs ++ gs) = true) : v.flaggedCallContains p gs = true := by
  obtain ⟨nonempty, t, passes, held⟩ := flaggedCallContains_iff.mp found
  exact flaggedCallContains_iff.mpr ⟨nonempty, t, passes.of_append, held⟩

theorem flaggedCallContains_nil_eq (lists : v.ListsExactly) :
    v.flaggedCallContains p [] = v.calleeContains p := by
  rw [Bool.eq_iff_iff, flaggedCallContains_iff, calleeContains_iff]
  simp only [Body.passesTo_nil_iff, lists _]

theorem calleeContains_of_flaggedCallContains (lists : v.ListsExactly) {flags : List Bool}
    (found : v.flaggedCallContains p flags = true) : v.calleeContains p = true := by
  rw [← List.append_nil flags] at found
  rw [← flaggedCallContains_nil_eq lists]
  exact flaggedCallContains_of_append found

theorem listsExactly_of_callees_of_body
    (same : v.callees = ((v.context.methods.body? v.handler).map Body.callees).getD []) :
    v.ListsExactly :=
  fun _ => mem_callees_iff_of_callees_of_body same

theorem listsExactly_of_graph {g : MethodGraph} (consistent : g.Consistent)
    (argumentsField : Token) (virtualCode : Int32) (handler : Token) :
    ListsExactly ⟨g.context argumentsField, virtualCode, handler⟩ :=
  listsExactly_of_callees_of_body (MethodGraph.callees_of_consistent consistent handler)

end VirtualInstruction

/-- A call found by its flags is found by their last ones too, and a call found without flags is one
    of a callee that contains the pattern; so whatever is told apart by flags has the shape that
    asks only callees. The callees are those of the body in a method graph with any history, and
    wherever they are left to the bodies. -/
theorem accepts_with_fewer_flags :
    (∀ (v : VirtualInstruction) (p : Pattern),
      (∀ fs gs : List Bool, v.flaggedCallContains p (fs ++ gs) = true →
        v.flaggedCallContains p gs = true) ∧
      (v.ListsExactly → v.flaggedCallContains p [] = v.calleeContains p ∧
        ∀ flags, (Shape.discriminated p flags).accepts v = true →
          (Shape.indirect p).accepts v = true)) ∧
    (∀ (steps : List MethodGraph.Step) (argumentsField : Token) (virtualCode : Int32)
      (handler : Token), VirtualInstruction.ListsExactly
        ⟨(MethodGraph.empty.after steps).context argumentsField, virtualCode, handler⟩) ∧
    ∀ (bodies : Token → Option Body) (returnTypes : Token → Option String) (argumentsField : Token)
      (virtualCode : Int32) (handler : Token), VirtualInstruction.ListsExactly
        ⟨⟨{ body? := bodies, returnType? := returnTypes }, argumentsField⟩, virtualCode,
          handler⟩ := by
  refine ⟨?_, ?_, ?_⟩
  · intro v p
    refine ⟨fun _ _ => VirtualInstruction.flaggedCallContains_of_append, ?_⟩
    intro lists
    exact ⟨VirtualInstruction.flaggedCallContains_nil_eq lists,
      fun _ => VirtualInstruction.calleeContains_of_flaggedCallContains lists⟩
  · intro steps argumentsField virtualCode handler
    have consistent := (MethodGraph.Represents.empty.after steps).consistent
    exact VirtualInstruction.listsExactly_of_graph consistent argumentsField virtualCode handler
  · intro bodies returnTypes argumentsField virtualCode handler
    exact VirtualInstruction.listsExactly_of_callees_of_body rfl

/-- Divides by a helper that is called twice, the second time without flags, and whose callees have
    been asked for. -/
def dividingWorld : List MethodGraph.Step :=
  let helper : Instruction := ⟨.call, .methodRef (.methodDef 16)⟩
  [.insert ⟨.methodDef 1, "Handler", "System.Void",
      [⟨.ldcI4_1, .absent⟩, ⟨.ldcI4S, .immediate (.int8 0)⟩, helper, ⟨.ldarg0, .absent⟩, helper,
        ⟨.ret, .absent⟩]⟩,
    .insert ⟨.methodDef 16, "Helper", "System.Void", Generated.divHelper.map fun c => ⟨c, .absent⟩⟩,
    .callees (.methodDef 1)]

theorem accepts_of_dividing_handler :
    ∃ v, ((MethodGraph.empty.after dividingWorld).context (.field 1)).instruction 9
        (.methodDef 1) = .ok v ∧
      v.flaggedCallContains Generated.divHelper ([true] ++ [false]) = true ∧
      v.flaggedCallContains Generated.divHelper [false] = true ∧
      v.flaggedCallContains Generated.divHelper [] = true ∧
      v.calleeContains Generated.divHelper = true := by
  have world := MethodGraph.Represents.empty.after dividingWorld
  obtain ⟨weaker, graphs, _⟩ := accepts_with_fewer_flags
  have lists := graphs dividingWorld (.field 1) 9 (.methodDef 1)
  have known : (((MethodGraph.empty.after dividingWorld).context (.field 1)).methods.body?
      (.methodDef 1)).isSome = true := by
    rw [world.context]
    decide
  refine ⟨_, Context.instruction_eq_ok_iff.mpr ⟨known, rfl⟩, ?_⟩
  generalize made : (⟨(MethodGraph.empty.after dividingWorld).context (.field 1), 9, .methodDef 1⟩ :
    VirtualInstruction) = v at *
  have both : v.flaggedCallContains Generated.divHelper ([true] ++ [false]) = true := by
    rw [← made, world.context]
    decide
  obtain ⟨fewer, plain⟩ := weaker v Generated.divHelper
  obtain ⟨none_left, indirect⟩ := plain lists
  have found := indirect [true, false] both
  exact ⟨both, fewer [true] [false] both, none_left.trans found, found⟩

end OpcodeRecovery
