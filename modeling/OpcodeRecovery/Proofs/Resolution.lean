import Mathlib.Data.List.Basic
import OpcodeRecovery.Method.History
import OpcodeRecovery.Proofs.Imitation
import OpcodeRecovery.Proofs.Priority

/-!
Resolving more methods never loses a match. No shape asks that a method be unknown: whoever knows
more of the methods around a handler finds it in all shapes it had before, and recovers from it the
same opcode or one of higher priority.
-/
namespace OpcodeRecovery

/-- The second source knows what the first knows. The handler has one body in both, and it calls no
    less in the second. -/
structure MethodSource.Extends (s s' : MethodSource) (handler : Token) : Prop where
  bodies : ∀ t b, s.body? t = some b → s'.body? t = some b
  returnTypes : ∀ t type, s.returnType? t = some type → s'.returnType? t = some type
  handlerBody : s'.body? handler = s.body? handler
  callees : s.callees handler ⊆ s'.callees handler

/-- What matches the first virtual instruction matches the second, and from the second nothing of
    lower priority is recovered. -/
structure VirtualInstruction.KeepsMatches (v w : VirtualInstruction) : Prop where
  accepts : ∀ s : Shape, s.accepts v = true → s.accepts w = true
  candidates : ∀ p : Policy, (p.candidates v).Sublist (p.candidates w)
  priority : ∀ (p : Policy) (n : Nat) (r : Recognizer),
    catalog[n]? = some r → p.recover? v = some r.opcode →
    ∃ m ≤ n, ∃ q : Recognizer, catalog[m]? = some q ∧ p.recover? w = some q.opcode

namespace VirtualInstruction
variable {v w : VirtualInstruction}

theorem KeepsMatches.of_accepts (accepts : ∀ s : Shape, s.accepts v = true → s.accepts w = true) :
    v.KeepsMatches w where
  accepts := accepts
  candidates p := p.candidates_sublist_of_accepts v fun r => accepts r.shape
  priority p n r position recovered := by
    have before := p.acceptsAt_of_recover? v position recovered
    exact p.exists_recover?_of_acceptsAt w
      ⟨before.position, before.consulted, accepts r.shape before.accepted⟩

theorem imitates_of_extends {s' : MethodSource} (extended : v.context.methods.Extends s' v.handler) :
    Imitates id v (v.inContext ⟨s', v.context.argumentsField⟩) where
  body := by
    have same : (v.inContext ⟨s', v.context.argumentsField⟩).body = v.body :=
      congrArg (Option.getD · []) extended.handlerBody
    rw [same]
    simp [Instruction.Reading.rename]
  callees _ called := extended.callees called
  holds t _ p held := by
    obtain ⟨b, known, window⟩ := held
    exact ⟨b, extended.bodies t b known, window⟩
  returnType t _ type returned := extended.returnTypes t type returned
  argumentsField := rfl

theorem KeepsMatches.of_extends {s' : MethodSource}
    (extended : v.context.methods.Extends s' v.handler) :
    v.KeepsMatches (v.inContext ⟨s', v.context.argumentsField⟩) :=
  .of_accepts fun _ => (imitates_of_extends extended).accepts

end VirtualInstruction

namespace MethodGraph

theorem foldl_insert_of_ne {g : MethodGraph} {ms : List Method} {t : Token}
    (others : ∀ m ∈ ms, m.token ≠ t) :
    (ms.foldl insert g).method? t = g.method? t ∧
      (ms.foldl insert g).remembered[t]? = g.remembered[t]? := by
  induction ms generalizing g with
  | nil => exact ⟨rfl, rfl⟩
  | cons m rest ih =>
    have other : m.token ≠ t := others m List.mem_cons_self
    obtain ⟨methods, remembered⟩ := ih (g := g.insert m) fun n member =>
      others n (List.mem_cons_of_mem m member)
    rw [List.foldl_cons, methods, remembered]
    constructor
    · simp [method?, insert, Std.HashMap.getElem?_insert, other]
    · simp [insert, Std.HashMap.getElem?_erase, other]

theorem foldl_insert_of_contains {g : MethodGraph} {ms : List Method} {t : Token}
    (fresh : ∀ m ∈ ms, g.contains m.token = false) (stored : g.contains t = true) :
    (ms.foldl insert g).method? t = g.method? t ∧
      (ms.foldl insert g).remembered[t]? = g.remembered[t]? := by
  refine foldl_insert_of_ne fun m member same => ?_
  have absent := fresh m member
  rw [same, stored] at absent
  cases absent

theorem extends_foldl_insert {g : MethodGraph} {ms : List Method} {handler : Token}
    (fresh : ∀ m ∈ ms, g.contains m.token = false) (stored : g.contains handler = true) :
    g.source.Extends (ms.foldl insert g).source handler := by
  have known : ∀ {α : Type} (part : Method → α) (t : Token) (x : α),
      (g.method? t).map part = some x → ((ms.foldl insert g).method? t).map part = some x := by
    intro α part t x found
    obtain ⟨m, held, _⟩ := Option.map_eq_some_iff.mp found
    have present : g.contains t = true := by rw [← isSome_method?, held, Option.isSome_some]
    rw [(foldl_insert_of_contains fresh present).1, found]
  obtain ⟨method, remembered⟩ := foldl_insert_of_contains fresh stored
  have handlerBody : (ms.foldl insert g).body? handler = g.body? handler := by
    rw [body?, method, body?]
  have sameCallees : (ms.foldl insert g).callees handler = g.callees handler := by
    rw [callees, remembered, handlerBody, callees]
  refine ⟨known Method.body, known Method.returnType, handlerBody, ?_⟩
  intro t called
  have here : t ∈ g.callees handler := called
  rw [← sameCallees] at here
  exact here

end MethodGraph

/-- Whoever extends a source keeps all matches. A graph is extended by any insertions under tokens
    that it does not have, and its virtual instructions can still be made afterwards. -/
theorem recovery_of_extension :
    (∀ (v : VirtualInstruction) (s' : MethodSource), v.context.methods.Extends s' v.handler →
      v.KeepsMatches (v.inContext ⟨s', v.context.argumentsField⟩)) ∧
    ∀ (g : MethodGraph) (ms : List Method) (argumentsField : Token) (virtualCode : Int32)
      (handler : Token) (v : VirtualInstruction), (∀ m ∈ ms, g.contains m.token = false) →
      (g.context argumentsField).instruction virtualCode handler = .ok v →
      ∃ w, ((ms.foldl .insert g).context argumentsField).instruction virtualCode handler = .ok w ∧
        v.KeepsMatches w := by
  constructor
  · intro v s' extended
    exact .of_extends extended
  · intro g ms argumentsField virtualCode handler v fresh made
    obtain ⟨known, rfl⟩ := Context.instruction_eq_ok_iff.mp made
    have stored : g.contains handler = true := by
      rw [← MethodGraph.isSome_method?]
      simpa [MethodGraph.context, MethodGraph.source, MethodGraph.body?] using known
    have extended := MethodGraph.extends_foldl_insert fresh stored
    have stillKnown := (congrArg Option.isSome extended.handlerBody).trans known
    exact ⟨_, Context.instruction_eq_ok_iff.mpr ⟨stillKnown, rfl⟩, .of_extends extended⟩

/-- A handler that calls two helpers, of which only the second is there. -/
def partlyResolved : MethodGraph :=
  .ofList [
    ⟨.methodDef 1, "Handler", "System.Void",
      [⟨.call, .methodRef (.methodDef 16)⟩, ⟨.callvirt, .methodRef (.methodDef 17)⟩,
       ⟨.ret, .absent⟩]⟩,
    ⟨.methodDef 17, "Or", "System.Void", Generated.orHelper.map fun c => ⟨c, .absent⟩⟩]

def lateHelper : Method :=
  ⟨.methodDef 16, "And", "System.Void", Generated.andHelper.map fun c => ⟨c, .absent⟩⟩

theorem recovery_of_late_helper :
    partlyResolved.contains lateHelper.token = false ∧
    ∃ v w, (partlyResolved.context (.field 1)).instruction 3 (.methodDef 1) = .ok v ∧
      ((partlyResolved.insert lateHelper).context (.field 1)).instruction 3 (.methodDef 1) = .ok w ∧
      v.context.methods.Extends (partlyResolved.insert lateHelper).source v.handler ∧
      v.KeepsMatches (v.inContext ⟨(partlyResolved.insert lateHelper).source, .field 1⟩) ∧
      v.KeepsMatches w ∧ v.recover? = some .or ∧ w.recover? = some .and := by
  have fresh : ∀ m ∈ [lateHelper], partlyResolved.contains m.token = false := by
    intro m member
    obtain rfl := List.mem_singleton.mp member
    cbv
  have stored : partlyResolved.contains (.methodDef 1) = true := by cbv
  have extended := MethodGraph.extends_foldl_insert fresh stored
  have made : (partlyResolved.context (.field 1)).instruction 3 (.methodDef 1) =
      .ok ⟨partlyResolved.context (.field 1), 3, .methodDef 1⟩ :=
    Context.instruction_eq_ok_iff.mpr ⟨by cbv, rfl⟩
  obtain ⟨w, remade, keeps⟩ := recovery_of_extension.2 _ _ _ _ _ _ fresh made
  obtain ⟨_, rfl⟩ := Context.instruction_eq_ok_iff.mp remade
  have recovered : VirtualInstruction.recover?
      ⟨(partlyResolved.insert lateHelper).context (.field 1), 3, .methodDef 1⟩ = some .and := by cbv
  exact ⟨fresh _ List.mem_cons_self, _, _, made, remade, extended,
    recovery_of_extension.1 _ _ extended, keeps, by cbv, recovered⟩

end OpcodeRecovery
