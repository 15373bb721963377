import OpcodeRecovery.Proofs.Exclusion
import OpcodeRecovery.Proofs.GraphHistory
import OpcodeRecovery.Proofs.Priority

/-!
What the number of calls tells. A shape that speaks of the handler's own body demands calls there,
mostly more than one. A handler that calls once, and calls just a helper of arithmetic, is left to
the shapes that look for that helper; so it is known exactly what is recovered from it, whatever
else its body does.
-/
namespace OpcodeRecovery

namespace Pattern

theorem isSuffix_of_not_mem {p before after : Pattern} {c : Opcode}
    (ends : p <:+ before ++ c :: after) (lacks : c ∉ p) : p <:+ after := by
  have behind : c :: after <:+ before ++ c :: after := List.suffix_append before (c :: after)
  rcases List.suffix_or_suffix_of_suffix ends behind with shorter | longer
  · rcases List.suffix_cons_iff.mp shorter with same | inside
    · rw [same] at lacks
      exact absurd List.mem_cons_self lacks
    · exact inside
  · exact absurd (longer.subset List.mem_cons_self) lacks

def foundIn (p cs : Pattern) : Bool := !p.isEmpty && (p.offset? cs).isSome

end Pattern

namespace Shape
variable {s : Shape} {v : VirtualInstruction}

/-- How many calls the shape demands of the handler's own body. -/
def demandedCalls : Shape → Nat
  | .argumentStore _ =>
    Generated.argumentStore.countP Opcode.isCall + Generated.argumentStoreTail.countP Opcode.isCall
  | .argumentAddressLoad _ => Generated.argumentAddressLoad.countP Opcode.isCall
  | s => s.start.countP Opcode.isCall

theorem demandedCalls_le_of_argumentStore {width : AccessorWidth}
    (accepted : (argumentStore width).accepts v = true) :
    (argumentStore width).demandedCalls ≤ v.body.opcodes.countP Opcode.isCall := by
  obtain ⟨⟨x, w, y, first, _⟩, rest, tail⟩ := accepts_argumentStore_iff.mp accepted
  have window : v.body.opcodes = x.opcodes ++ Generated.argumentStore ++ y.opcodes := by
    rw [first.split, Body.opcodes_append, Body.opcodes_append, first.opcodes]
    rfl
  -- The window ends with an opcode that the tail lacks, so the two do not share a call.
  have ends : Generated.argumentStoreTail <:+
      (x.opcodes ++ [.ldarg0, .ldfld, .ldloc0, .callvirt]) ++ .ldelem :: y.opcodes := by
    refine ⟨rest, ?_⟩
    rw [window] at tail
    simpa [Generated.argumentStore, Generated.argumentStoreTail] using tail.symm
  have behind := Pattern.isSuffix_of_not_mem ends (by decide)
  have counted := behind.sublist.countP_le (p := Opcode.isCall)
  rw [window, List.countP_append, List.countP_append, demandedCalls]
  omega

theorem demandedCalls_le_of_accepts (accepted : s.accepts v = true) :
    s.demandedCalls ≤ v.body.opcodes.countP Opcode.isCall := by
  have start := (begins_of_accepts accepted).sublist.countP_le (p := Opcode.isCall)
  cases s with
  | argumentStore width => exact demandedCalls_le_of_argumentStore accepted
  | argumentAddressLoad width =>
    obtain ⟨x, w, y, first, _⟩ := accepts_argumentAddressLoad_iff.mp accepted
    have window := (Pattern.infix_opcodes_iff _ _).mpr ⟨x, w, y, first.toOccurs⟩
    exact window.sublist.countP_le
  | _ => exact start

end Shape

namespace Body
variable {before after quiet : Body}

theorem contains_eq_foundIn (b : Body) (p : Pattern) : b.contains p = p.foundIn b.opcodes := by
  cases empty : p.isEmpty <;> simp [contains, find?, Pattern.foundIn, empty]

theorem callSitesAfter_append_of_quiet (passed : List Instruction) (b : Body)
    (silent : ∀ i ∈ quiet, i.isCall = false) :
    callSitesAfter passed (quiet ++ b) = callSitesAfter (quiet.reverse ++ passed) b := by
  induction quiet generalizing passed with
  | nil => rfl
  | cons i quiet ih =>
    have first : i.callTarget? = none := by
      simp [Instruction.callTarget?, silent i List.mem_cons_self]
    have others := ih (i :: passed) fun j member => silent j (List.mem_cons_of_mem i member)
    rw [List.cons_append, callSitesAfter, first, List.reverse_cons, List.append_assoc]
    exact others

theorem countP_isCall_of_quiet (silent : ∀ i ∈ quiet, i.isCall = false) :
    quiet.opcodes.countP Opcode.isCall = 0 := by
  rw [opcodes, List.countP_map, List.countP_eq_zero]
  intro i member
  exact Bool.eq_false_iff.mp (silent i member)

theorem countP_isCall_of_single {call : Instruction} (calls : call.isCall = true)
    (silent : ∀ i ∈ before ++ after, i.isCall = false) :
    (opcodes (before ++ call :: after)).countP Opcode.isCall = 1 := by
  have others := countP_isCall_of_quiet silent
  rw [opcodes_append, List.countP_append] at others
  have one : call.opcode.isCall = true := calls
  rw [opcodes_append, opcodes_cons, List.countP_append, List.countP_cons_of_pos one]
  omega

theorem callSites_of_single {call : Instruction} {target : Token}
    (calls : call.callTarget? = some target) (silent : ∀ i ∈ before ++ after, i.isCall = false) :
    callSites (before ++ call :: after) = [⟨before.reverse, target⟩] := by
  have earlier : ∀ i ∈ before, i.isCall = false :=
    fun i member => silent i (List.mem_append_left after member)
  have later : ∀ i ∈ after, i.isCall = false :=
    fun i member => silent i (List.mem_append_right before member)
  have none_behind : callSitesAfter (call :: before.reverse) after = [] := by
    have rest := callSitesAfter_append_of_quiet (call :: before.reverse) [] later
    rw [List.append_nil] at rest
    exact rest
  rw [callSites, callSitesAfter_append_of_quiet _ _ earlier, List.append_nil, callSitesAfter, calls]
  exact congrArg (List.cons _) none_behind

end Body

structure VirtualInstruction.CallsOnce (v : VirtualInstruction) (before : Body) (target : Token)
    (cs : Pattern) : Prop where
  sites : v.body.callSites = [⟨before.reverse, target⟩]
  count : v.body.opcodes.countP Opcode.isCall = 1
  callees : v.callees = [target]
  called : (v.context.methods.body? target).map Body.opcodes = some cs

/-- What a shape says of a handler that calls only a method with these opcodes. What is pushed
    before the call is listed from the call on backwards. -/
def Shape.acceptsOnce (cs : Pattern) (pushed : List (Option Bool)) : Shape → Bool
  | .indirect helper => helper.foundIn cs
  | .discriminated helper flags =>
    helper.foundIn cs && pushed.take flags.length == flags.reverse.map some
  | _ => false

def Shape.asksOnlyCallees : Shape → Bool
  | .indirect _ | .discriminated _ _ => true
  | _ => false

def Shape.isRuledOut (cs : Pattern) : Shape → Bool
  | .indirect _ | .discriminated _ _ => false
  | .delegating _ helper => !helper.foundIn cs
  | s => decide (1 < s.demandedCalls)

namespace VirtualInstruction.CallsOnce
variable {v : VirtualInstruction} {before : Body} {target : Token} {cs : Pattern}

theorem bodyContains_eq (once : v.CallsOnce before target cs) (p : Pattern) :
    v.context.methods.bodyContains p target = p.foundIn cs := by
  obtain ⟨b, known, rfl⟩ := Option.map_eq_some_iff.mp once.called
  rw [MethodSource.bodyContains, known, Option.any_some, Body.contains_eq_foundIn]

theorem calleeContains_eq (once : v.CallsOnce before target cs) (p : Pattern) :
    v.calleeContains p = p.foundIn cs := by
  rw [calleeContains, once.callees, List.any_cons, List.any_nil, Bool.or_false,
    once.bodyContains_eq]

theorem flaggedCallContains_eq (once : v.CallsOnce before target cs) (p : Pattern)
    (flags : List Bool) :
    v.flaggedCallContains p flags =
      (Shape.discriminated p flags).acceptsOnce cs (before.reverse.map Instruction.truth?) := by
  rw [flaggedCallContains, once.sites, List.any_cons, List.any_nil, Bool.or_false,
    once.bodyContains_eq, Bool.and_comm, CallSite.passes, List.map_take, Shape.acceptsOnce]

theorem accepts_eq_false (once : v.CallsOnce before target cs) {s : Shape}
    (out : s.isRuledOut cs = true) : s.accepts v = false := by
  have excess : 1 < s.demandedCalls → s.accepts v = false := by
    intro many
    by_contra accepted
    have bound := Shape.demandedCalls_le_of_accepts (eq_true_of_ne_false accepted)
    rw [once.count] at bound
    omega
  cases s with
  | indirect helper => cases out
  | discriminated helper flags => cases out
  | delegating stub helper =>
    have missing : helper.foundIn cs = false := by simpa [Shape.isRuledOut] using out
    rw [Shape.accepts, once.calleeContains_eq, missing, Bool.and_false]
  | _ => exact excess (of_decide_eq_true out)

theorem accepts_eq_acceptsOnce (once : v.CallsOnce before target cs) {s : Shape}
    (asks : s.asksOnlyCallees = true) :
    s.accepts v = s.acceptsOnce cs (before.reverse.map Instruction.truth?) := by
  cases s with
  | indirect helper => exact once.calleeContains_eq helper
  | discriminated helper flags => exact once.flaggedCallContains_eq helper flags
  | _ => cases asks

end VirtualInstruction.CallsOnce

theorem Shape.acceptsOnce_eq_false {s : Shape} (asks : s.asksOnlyCallees = false) (cs : Pattern)
    (pushed : List (Option Bool)) : s.acceptsOnce cs pushed = false := by
  cases s <;> first | rfl | cases asks

inductive ArithmeticHelper where
  | and | or | xor | shl | shr | div | rem | add | sub
  deriving DecidableEq, Repr

namespace ArithmeticHelper

def pattern : ArithmeticHelper → Pattern
  | .and => Generated.andHelper
  | .or => Generated.orHelper
  | .xor => Generated.xorHelper
  | .shl => Generated.shlHelper
  | .shr => Generated.shrHelper
  | .div => Generated.divHelper
  | .rem => Generated.remHelper
  | .add => Generated.addHelper
  | .sub => Generated.subHelper

/-- What a single call of the helper implements, given what is pushed before it, from the call on
    backwards. The nearest value says whether operands are unsigned, or for a shift whether the
    sign is kept; the one before says whether overflow is checked. -/
def opcode? : ArithmeticHelper → List (Option Bool) → Option Opcode
  | .and, _ => some .and
  | .or, _ => some .or
  | .xor, _ => some .xor
  | .shl, _ => some .shl
  | .shr, some true :: _ => some .shr
  | .shr, some false :: _ => some .shrUn
  | .div, some true :: _ => some .divUn
  | .div, some false :: _ => some .div
  | .rem, some true :: _ => some .remUn
  | .rem, some false :: _ => some .rem
  | .add, some false :: some false :: _ => some .add
  | .add, some false :: some true :: _ => some .addOvf
  | .add, some true :: some true :: _ => some .addOvfUn
  | .sub, some false :: some false :: _ => some .sub
  | .sub, some false :: some true :: _ => some .subOvf
  | .sub, some true :: some true :: _ => some .subOvfUn
  | _, _ => none

theorem opcodes_of_acceptsOnce (h : ArithmeticHelper) (pushed : List (Option Bool)) :
    (catalog.filter fun r => r.shape.acceptsOnce h.pattern pushed).map Recognizer.opcode =
      (h.opcode? pushed).toList := by
  -- The cases are split by how many of the values pushed the members of a family look at.
  cases h with
  | and | or | xor | shl => rfl
  | shr | div | rem => rcases pushed with _ | ⟨_ | _ | _, _⟩ <;> rfl
  | add | sub => rcases pushed with _ | ⟨_ | _ | _, _ | ⟨_ | _ | _, _⟩⟩ <;> rfl

theorem isRuledOut_of_mem_catalog (h : ArithmeticHelper) :
    ∀ r ∈ catalog, r.shape.asksOnlyCallees = false → r.shape.isRuledOut h.pattern = true := by
  cases h <;> decide

end ArithmeticHelper

namespace VirtualInstruction.CallsOnce
variable {v : VirtualInstruction} {before : Body} {target : Token} {h : ArithmeticHelper}

theorem candidates_eq (once : v.CallsOnce before target h.pattern) :
    Policy.standard.candidates v =
      (h.opcode? (before.reverse.map Instruction.truth?)).toList := by
  have verdicts : ∀ r ∈ catalog,
      r.accepts v = r.shape.acceptsOnce h.pattern (before.reverse.map Instruction.truth?) := by
    intro r listed
    cases asks : r.shape.asksOnlyCallees with
    | true => exact once.accepts_eq_acceptsOnce asks
    | false =>
      rw [Shape.acceptsOnce_eq_false asks]
      exact once.accepts_eq_false (h.isRuledOut_of_mem_catalog r listed asks)
  rw [Policy.candidates, Policy.standard.recognizers_eq_catalog rfl, List.filter_congr verdicts,
    h.opcodes_of_acceptsOnce]

theorem recover?_eq (once : v.CallsOnce before target h.pattern) :
    v.recover? = h.opcode? (before.reverse.map Instruction.truth?) := by
  rw [recover?, Policy.recover?_eq_head?, once.candidates_eq, Option.head?_toList]

end VirtualInstruction.CallsOnce

theorem MethodGraph.Consistent.callsOnce {g : MethodGraph} (consistent : g.Consistent)
    (argumentsField : Token) (virtualCode : Int32) {handler target : Token}
    {before after called : Body} {call : Instruction}
    (stored : g.body? handler = some (before ++ call :: after))
    (calls : call.callTarget? = some target) (silent : ∀ i ∈ before ++ after, i.isCall = false)
    (known : g.body? target = some called) :
    VirtualInstruction.CallsOnce ⟨g.context argumentsField, virtualCode, handler⟩ before target
      called.opcodes := by
  have body : VirtualInstruction.body ⟨g.context argumentsField, virtualCode, handler⟩ =
      before ++ call :: after := VirtualInstruction.body_of_known stored
  have sites := Body.callSites_of_single calls silent
  have isCall := Instruction.isCall_of_callTarget? calls
  refine ⟨?_, ?_, ?_, congrArg (Option.map Body.opcodes) known⟩
  · rw [body, sites]
  · rw [body, Body.countP_isCall_of_single isCall silent]
  · have targets := Body.targets_callSitesAfter [] (before ++ call :: after)
    rw [← Body.callSites, sites] at targets
    have callees := MethodGraph.callees_of_consistent consistent handler
    rw [stored, Option.map_some, Option.getD_some, Body.callees, ← targets] at callees
    exact callees

/-- A handler that calls once, and calls just a helper of arithmetic, is recovered as that helper
    and the values pushed before the call tell, in a graph with any history. -/
theorem recovery_of_single_call (steps : List MethodGraph.Step) (argumentsField : Token)
    (virtualCode : Int32) (handler target : Token) (before after called : Body)
    (call : Instruction) (h : ArithmeticHelper)
    (stored : (MethodGraph.empty.after steps).body? handler = some (before ++ call :: after))
    (calls : call.callTarget? = some target) (silent : ∀ i ∈ before ++ after, i.isCall = false)
    (known : (MethodGraph.empty.after steps).body? target = some called)
    (exact : called.opcodes = h.pattern) :
    ∃ v, ((MethodGraph.empty.after steps).context argumentsField).instruction virtualCode handler =
        .ok v ∧
      Policy.standard.candidates v =
        (h.opcode? (before.reverse.map Instruction.truth?)).toList ∧
      v.recover = match h.opcode? (before.reverse.map Instruction.truth?) with
        | some c => .ok c
        | none => .error (.unidentified v) := by
  have consistent := (MethodGraph.Represents.empty.after steps).consistent
  have once := consistent.callsOnce argumentsField virtualCode stored calls silent known
  rw [exact] at once
  have present : ((MethodGraph.empty.after steps).body? handler).isSome = true := by
    rw [stored, Option.isSome_some]
  refine ⟨_, Context.instruction_eq_ok_iff.mpr ⟨present, rfl⟩, once.candidates_eq, ?_⟩
  have recovered := once.recover?_eq
  cases verdict : h.opcode? (before.reverse.map Instruction.truth?) with
  | some c => exact (Policy.standard.recover_eq_ok_iff _).mpr (recovered.trans verdict)
  | none =>
    exact (Policy.standard.recover_eq_error_iff _).mpr ⟨recovered.trans verdict, rfl⟩

/-- The helper is replaced after the handler was asked for its callees. -/
def checkedSubtraction : List MethodGraph.Step := [
  .insert ⟨.methodDef 1, "Handler", "System.Void",
    [⟨.ldarg0, .absent⟩, ⟨.ldcI4S, .immediate (.int8 1)⟩, ⟨.ldcI4_0, .absent⟩,
     ⟨.callvirt, .methodRef (.methodDef 16)⟩, ⟨.ret, .absent⟩]⟩,
  .insert ⟨.methodDef 16, "Helper", "System.Void", Generated.addHelper.map fun c => ⟨c, .absent⟩⟩,
  .callees (.methodDef 1),
  .insert ⟨.methodDef 16, "Helper", "System.Void", Generated.subHelper.map fun c => ⟨c, .absent⟩⟩]

theorem recovery_of_checkedSubtraction :
    ∃ v, ((MethodGraph.empty.after checkedSubtraction).context (.field 1)).instruction 9
        (.methodDef 1) = .ok v ∧
      Policy.standard.candidates v = [.subOvf] ∧ v.recover = .ok .subOvf := by
  have ledger := (MethodGraph.Represents.empty.after checkedSubtraction).source
  have stored := congrFun (congrArg MethodSource.body? ledger) (.methodDef 1)
  have known := congrFun (congrArg MethodSource.body? ledger) (.methodDef 16)
  exact recovery_of_single_call checkedSubtraction (.field 1) 9 (.methodDef 1) (.methodDef 16)
    [⟨.ldarg0, .absent⟩, ⟨.ldcI4S, .immediate (.int8 1)⟩, ⟨.ldcI4_0, .absent⟩] [⟨.ret, .absent⟩]
    (Generated.subHelper.map fun c => ⟨c, .absent⟩) ⟨.callvirt, .methodRef (.methodDef 16)⟩ .sub
    (stored.trans rfl) (by decide) (by decide) (known.trans rfl) (by decide)

end OpcodeRecovery
