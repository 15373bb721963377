import OpcodeRecovery.Method.Declared
import OpcodeRecovery.Proofs.CallCounts
import OpcodeRecovery.Proofs.Imitation

/-!
Handlers that call nothing. Each shape of the catalog speaks of a method that the handler calls, or
of calls in its own body. So nothing is recovered from a handler without calls, whatever else it
does and even if its body is gone, as long as no callees are made up for it.
-/
namespace OpcodeRecovery

/-- Calls through a pointer and constructions of objects are no calls here. -/
def Body.CallsNothing (b : Body) : Prop := ∀ i ∈ b, i.opcode ≠ .call ∧ i.opcode ≠ .callvirt

def VirtualInstruction.ListsCalled (v : VirtualInstruction) : Prop :=
  ∀ t ∈ v.callees, t ∈ v.body.callTargets

instance (b : Body) : Decidable b.CallsNothing :=
  inferInstanceAs (Decidable (∀ i ∈ b, i.opcode ≠ .call ∧ i.opcode ≠ .callvirt))

instance (v : VirtualInstruction) : Decidable v.ListsCalled :=
  inferInstanceAs (Decidable (∀ t ∈ v.callees, t ∈ v.body.callTargets))

namespace Body

theorem CallsNothing.isCall_eq_false {b : Body} (silent : b.CallsNothing) :
    ∀ i ∈ b, i.isCall = false := by
  intro i member
  obtain ⟨notCall, notVirtual⟩ := silent i member
  by_contra called
  rcases Opcode.isCall_iff.mp (eq_true_of_ne_false called) with same | same
  · exact notCall same
  · exact notVirtual same

theorem CallsNothing.callTargets_eq_nil {b : Body} (silent : b.CallsNothing) :
    b.callTargets = [] := by
  refine List.filterMap_eq_nil_iff.mpr ?_
  intro i member
  simp [Instruction.callTarget?, silent.isCall_eq_false i member]

end Body

theorem Shape.demandedCalls_pos_of_mem_catalog :
    ∀ r ∈ catalog, r.shape.asksOnlyCallees = false → 0 < r.shape.demandedCalls := by
  decide

namespace VirtualInstruction
variable {v : VirtualInstruction}

theorem mem_callees_iff_of_callees_of_body
    (same : v.callees = ((v.context.methods.body? v.handler).map Body.callees).getD [])
    {t : Token} : t ∈ v.callees ↔ t ∈ v.body.callTargets := by
  rw [same, body]
  cases v.context.methods.body? v.handler with
  | none => exact Iff.rfl
  | some b => exact Body.mem_callees

theorem listsCalled_of_callees_of_body
    (same : v.callees = ((v.context.methods.body? v.handler).map Body.callees).getD []) :
    v.ListsCalled :=
  fun _ => (mem_callees_iff_of_callees_of_body same).mp

theorem listsCalled_of_graph {g : MethodGraph} (consistent : g.Consistent) (argumentsField : Token)
    (virtualCode : Int32) (handler : Token) :
    ListsCalled ⟨g.context argumentsField, virtualCode, handler⟩ :=
  listsCalled_of_callees_of_body (MethodGraph.callees_of_consistent consistent handler)

theorem exists_called_of_accepts (lists : v.ListsCalled) {s : Shape}
    (asks : s.asksOnlyCallees = true) (accepted : s.accepts v = true) :
    ∃ t, t ∈ v.body.callTargets := by
  cases s with
  | indirect helper =>
    obtain ⟨_, t, callee, _⟩ := calleeContains_iff.mp accepted
    exact ⟨t, lists t callee⟩
  | discriminated helper flags =>
    obtain ⟨_, t, passes, _⟩ := flaggedCallContains_iff.mp accepted
    exact ⟨t, Body.mem_callTargets_of_passesTo passes⟩
  | _ => cases asks

theorem accepts_eq_false_of_silent (lists : v.ListsCalled) (silent : v.body.CallsNothing)
    {r : Recognizer} (listed : r ∈ catalog) : r.accepts v = false := by
  by_contra refused
  have accepted : r.shape.accepts v = true := eq_true_of_ne_false refused
  cases asks : r.shape.asksOnlyCallees with
  | true =>
    obtain ⟨t, called⟩ := exists_called_of_accepts lists asks accepted
    rw [silent.callTargets_eq_nil] at called
    cases called
  | false =>
    have demanded := Shape.demandedCalls_pos_of_mem_catalog r listed asks
    have bound := Shape.demandedCalls_le_of_accepts accepted
    rw [Body.countP_isCall_of_quiet silent.isCall_eq_false] at bound
    omega

end VirtualInstruction

namespace Policy
variable {p : Policy} {v : VirtualInstruction}

theorem candidates_eq_nil (refused : ∀ r ∈ catalog, r.accepts v = false) : p.candidates v = [] := by
  rw [candidates, List.map_eq_nil_iff, List.filter_eq_nil_iff]
  intro r consulted
  simp [refused r (List.mem_of_mem_filter consulted)]

theorem recover?_eq_none (refused : ∀ r ∈ catalog, r.accepts v = false) : p.recover? v = none := by
  rw [recover?_eq_head?, candidates_eq_nil refused, List.head?_nil]

end Policy

/-- Nothing is recovered from a handler that calls nothing, by any policy, unless callees are
    listed that its body does not call. Neither a method graph with any history nor a source that
    leaves the callees to the bodies lists such. -/
theorem recovery_without_calls :
    (∀ v : VirtualInstruction, v.ListsCalled → v.body.CallsNothing →
      (∀ r ∈ catalog, r.accepts v = false) ∧
      ∀ p : Policy, p.candidates v = [] ∧ p.recover? v = none ∧ p.recoverOrUnknown v = .unknown ∧
        p.recover v = .error (.unidentified v)) ∧
    (∀ (steps : List MethodGraph.Step) (argumentsField : Token) (virtualCode : Int32)
      (handler : Token), VirtualInstruction.ListsCalled
        ⟨(MethodGraph.empty.after steps).context argumentsField, virtualCode, handler⟩) ∧
    ∀ (bodies : Token → Option Body) (returnTypes : Token → Option String) (argumentsField : Token)
      (virtualCode : Int32) (handler : Token), VirtualInstruction.ListsCalled
        ⟨⟨{ body? := bodies, returnType? := returnTypes }, argumentsField⟩, virtualCode,
          handler⟩ := by
  refine ⟨?_, ?_, ?_⟩
  · intro v lists silent
    have refused : ∀ r ∈ catalog, r.accepts v = false :=
      fun _ listed => v.accepts_eq_false_of_silent lists silent listed
    refine ⟨refused, fun p => ?_⟩
    have failed : p.recover? v = none := Policy.recover?_eq_none refused
    exact ⟨Policy.candidates_eq_nil refused, failed,
      (p.recoverOrUnknown_eq_unknown_iff v).mpr (Policy.candidates_eq_nil refused),
      (p.recover_eq_error_iff v).mpr ⟨failed, rfl⟩⟩
  · intro steps argumentsField virtualCode handler
    have consistent := (MethodGraph.Represents.empty.after steps).consistent
    exact VirtualInstruction.listsCalled_of_graph consistent argumentsField virtualCode handler
  · intro bodies returnTypes argumentsField virtualCode handler
    exact VirtualInstruction.listsCalled_of_callees_of_body rfl

/-- Uses a method that contains a helper in all ways but calling it. -/
def pointerHandler (withdrawn : List Token) : VirtualInstruction :=
  let helper : Token := .methodDef 16
  let declared : Declarations := [
    ⟨.methodDef 1, some [⟨.ldftn, .methodRef helper⟩, ⟨.calli, .methodRef helper⟩,
      ⟨.newobj, .methodRef helper⟩, ⟨.ret, .absent⟩], none, none⟩,
    ⟨helper, some (Generated.orHelper.map fun c => ⟨c, .absent⟩), none, none⟩]
  ⟨⟨declared.source withdrawn, .field 1⟩, 3, .methodDef 1⟩

theorem recovery_of_pointerHandler :
    (pointerHandler []).recover = .error (.unidentified (pointerHandler [])) ∧
    (pointerHandler [.methodDef 1]).recover =
      .error (.unidentified (pointerHandler [.methodDef 1])) := by
  obtain ⟨silence, _, _⟩ := recovery_without_calls
  constructor
  · obtain ⟨_, failed⟩ := silence (pointerHandler []) (by decide) (by decide)
    exact (failed .standard).2.2.2
  · obtain ⟨_, failed⟩ := silence (pointerHandler [.methodDef 1]) (by decide) (by decide)
    exact (failed .standard).2.2.2

end OpcodeRecovery
