import OpcodeRecovery.Proofs.Ambiguity
import OpcodeRecovery.Proofs.GraphHistory
import OpcodeRecovery.Proofs.Imitation
import OpcodeRecovery.Proofs.Priority

/-!
Code around a handler. A body stays where it is read from when code is put around it: its windows
and its call sites are still there, and what stood first still stands first if all that is new
stands behind. The world a handler lives in changes with it, as a handler may call itself.
-/
namespace OpcodeRecovery

namespace Pattern
variable {p : Pattern} {b x w y : Body}

theorem Occurs.surround (occurs : p.Occurs b x w y) (before after : Body) :
    p.Occurs (before ++ b ++ after) (before ++ x) w (y ++ after) where
  split := by simp [occurs.split]
  opcodes := occurs.opcodes

/-- Code behind a body opens no window further left: that one would end inside the body. -/
theorem OccursFirst.append (first : p.OccursFirst b x w y) (after : Body) :
    p.OccursFirst (b ++ after) x w (y ++ after) where
  toOccurs := first.toOccurs.surround [] after
  least := by
    intro x' w' y' other
    by_contra left
    have size : b.opcodes.length = x.length + p.length + y.length := by
      rw [Body.length_opcodes, first.split, List.length_append, List.length_append,
        first.length_window]
    have room : x'.length ≤ b.opcodes.length := by omega
    have read := other.prefix_drop
    rw [Body.opcodes_append, List.drop_append_of_le_length room] at read
    have inside : p <+: b.opcodes.drop x'.length := by
      refine List.prefix_of_prefix_length_le read (List.prefix_append _ _) ?_
      rw [List.length_drop]
      omega
    have bound := first.least _ _ _ (occurs_of_prefix_drop inside)
    have before := List.length_take_le x'.length b
    omega

end Pattern

theorem Body.PassesTo.surround {b : Body} {flags : List Bool} {t : Token}
    (passes : b.PassesTo flags t) (before after : Body) :
    Body.PassesTo (before ++ b ++ after) flags t := by
  obtain ⟨earlier, arguments, call, later, split, called, read⟩ := passes
  exact ⟨before ++ earlier, arguments, call, later ++ after, by simp [split], called, read⟩

theorem Body.callees_surround (b before after : Body) :
    b.callees ⊆ Body.callees (before ++ b ++ after) := by
  intro t called
  rw [mem_callees] at called ⊢
  simp only [callTargets, List.filterMap_append, List.mem_append]
  exact Or.inl (Or.inr called)

/-- The second virtual instruction has code around the body of the first, and knows as much of the
    methods that it calls. -/
structure VirtualInstruction.Surrounded (before after : Body) (v w : VirtualInstruction) :
    Prop where
  body : w.body = before ++ v.body ++ after
  callees : v.callees ⊆ w.callees
  holds : ∀ p t, v.context.methods.Holds p t → w.context.methods.Holds p t
  returnTypes : ∀ t, w.context.methods.returnType? t = v.context.methods.returnType? t
  argumentsField : w.context.argumentsField = v.context.argumentsField

def Shape.Survives (s : Shape) (v w : VirtualInstruction) : Prop :=
  s.accepts v = true → s.accepts w = true

namespace VirtualInstruction.Surrounded
variable {before after : Body} {v w : VirtualInstruction}

theorem body_behind (surrounded : Surrounded [] after v w) : w.body = v.body ++ after :=
  surrounded.body

theorem refersToReturning (surrounded : Surrounded before after v w) {i : Instruction}
    {type : String} (refers : v.RefersToReturning i type) : w.RefersToReturning i type := by
  obtain ⟨m, method, returned⟩ := refers
  exact ⟨m, method, (surrounded.returnTypes m).trans returned⟩

theorem refersToArguments (surrounded : Surrounded before after v w) {i : Instruction}
    (refers : v.RefersToArguments i) : w.RefersToArguments i := by
  rw [RefersToArguments, surrounded.argumentsField]
  exact refers

theorem indirect (surrounded : Surrounded before after v w) (helper : Pattern) :
    (Shape.indirect helper).Survives v w := by
  intro found
  obtain ⟨nonempty, t, called, held⟩ := calleeContains_iff.mp found
  exact calleeContains_iff.mpr
    ⟨nonempty, t, surrounded.callees called, surrounded.holds helper t held⟩

theorem discriminated (surrounded : Surrounded before after v w) (helper : Pattern)
    (flags : List Bool) : (Shape.discriminated helper flags).Survives v w := by
  intro found
  obtain ⟨nonempty, t, passes, held⟩ := flaggedCallContains_iff.mp found
  refine flaggedCallContains_iff.mpr ⟨nonempty, t, ?_, surrounded.holds helper t held⟩
  rw [surrounded.body]
  exact passes.surround before after

theorem opening (surrounded : Surrounded [] after v w) (stub : Pattern) :
    (Shape.opening stub).Survives v w := by
  intro found
  have start := (v.body.startsWith_iff stub).mp found
  refine (w.body.startsWith_iff stub).mpr ?_
  rw [surrounded.body_behind, Body.opcodes_append]
  exact start.trans (List.prefix_append _ _)

theorem delegating (surrounded : Surrounded [] after v w) (stub helper : Pattern) :
    (Shape.delegating stub helper).Survives v w := by
  intro found
  simp only [Shape.accepts, Bool.and_eq_true] at found ⊢
  exact ⟨surrounded.opening stub found.1, surrounded.indirect helper found.2⟩

theorem argumentIndexLoad (surrounded : Surrounded [] after v w) (index : Opcode) :
    (Shape.argumentIndexLoad index).Survives v w := by
  intro accepted
  obtain ⟨⟨rest, start⟩, i, here, loads⟩ := Shape.accepts_argumentIndexLoad_iff.mp accepted
  have inside : 2 < v.body.length := (List.getElem?_eq_some_iff.mp here).1
  refine Shape.accepts_argumentIndexLoad_iff.mpr
    ⟨⟨rest ++ after.opcodes, ?_⟩, i, ?_, surrounded.refersToArguments loads⟩
  · rw [surrounded.body_behind, Body.opcodes_append, start, List.append_assoc]
  · rw [surrounded.body_behind, List.getElem?_append_left inside, here]

theorem argumentAddressLoad (surrounded : Surrounded [] after v w) (width : AccessorWidth) :
    (Shape.argumentAddressLoad width).Survives v w := by
  intro accepted
  obtain ⟨x, window, y, first, ⟨i, here, loads⟩, j, there, returns⟩ :=
    Shape.accepts_argumentAddressLoad_iff.mp accepted
  refine Shape.accepts_argumentAddressLoad_iff.mpr
    ⟨x, window, y ++ after, ?_, ⟨i, here, surrounded.refersToArguments loads⟩,
      j, there, surrounded.refersToReturning returns⟩
  rw [surrounded.body_behind]
  exact first.append after

/-- A store is accepted on account of its tail, so what is added must end with another. -/
theorem argumentStore (surrounded : Surrounded [] after v w)
    (tail : ∃ rest, after.opcodes = rest ++ [.callvirt, .pop, .ret]) (width : AccessorWidth) :
    (Shape.argumentStore width).Survives v w := by
  intro accepted
  obtain ⟨⟨x, window, y, first, i, here, returns⟩, _⟩ :=
    Shape.accepts_argumentStore_iff.mp accepted
  obtain ⟨rest, ends⟩ := tail
  refine Shape.accepts_argumentStore_iff.mpr
    ⟨⟨x, window, y ++ after, ?_, i, here, surrounded.refersToReturning returns⟩,
      v.body.opcodes ++ rest, ?_⟩
  · rw [surrounded.body_behind]
    exact first.append after
  · rw [surrounded.body_behind, Body.opcodes_append, ends, List.append_assoc]

end VirtualInstruction.Surrounded

def Shape.endsOpen : Shape → Bool
  | .argumentStore _ | .argumentLoad _ | .constantLoad _ => false
  | _ => true

theorem endsOpen_of_mem_catalog :
    ∀ r ∈ catalog, r.opcode ∉ [.starg, .stargS] ++ wholeBodyOpcodes →
      r.shape.endsOpen = true := by
  decide

theorem VirtualInstruction.Surrounded.of_endsOpen {after : Body} {v w : VirtualInstruction}
    (surrounded : Surrounded [] after v w) {s : Shape} (isOpen : s.endsOpen = true) :
    s.Survives v w := by
  cases s with
  | indirect helper => exact surrounded.indirect helper
  | discriminated helper flags => exact surrounded.discriminated helper flags
  | opening stub => exact surrounded.opening stub
  | delegating stub helper => exact surrounded.delegating stub helper
  | argumentIndexLoad index => exact surrounded.argumentIndexLoad index
  | argumentAddressLoad width => exact surrounded.argumentAddressLoad width
  | _ => cases isOpen

theorem VirtualInstruction.Surrounded.lost_candidate {after : Body} {v w : VirtualInstruction}
    (surrounded : Surrounded [] after v w) (p : Policy) {c : Opcode} (found : c ∈ p.candidates v)
    (lost : c ∉ p.candidates w) : c ∈ [.starg, .stargS] ++ wholeBodyOpcodes := by
  by_contra other
  obtain ⟨n, r, accepts, rfl⟩ := (p.mem_candidates_iff v).mp found
  have isOpen := endsOpen_of_mem_catalog r (List.mem_of_getElem? accepts.position) other
  have accepted : r.accepts w = true := surrounded.of_endsOpen isOpen accepts.accepted
  exact lost ((p.mem_candidates_iff w).mpr
    ⟨n, r, ⟨accepts.position, accepts.consulted, accepted⟩, rfl⟩)

structure MethodGraph.Surrounds (g g' : MethodGraph) (handler : Token) (before after : Body) :
    Prop where
  stored : ∃ m, g.method? handler = some m ∧
    g'.method? handler = some { m with body := before ++ m.body ++ after }
  others : ∀ t, t ≠ handler → g'.method? t = g.method? t

namespace MethodGraph.Surrounds
variable {g g' : MethodGraph} {handler : Token} {before after : Body}

theorem body? (surrounds : g.Surrounds g' handler before after) :
    ∃ b, g.body? handler = some b ∧ g'.body? handler = some (before ++ b ++ after) := by
  obtain ⟨m, stored, stored'⟩ := surrounds.stored
  exact ⟨m.body, by rw [MethodGraph.body?, stored, Option.map_some],
    by rw [MethodGraph.body?, stored', Option.map_some]⟩

theorem returnType?_eq (surrounds : g.Surrounds g' handler before after) (t : Token) :
    g'.returnType? t = g.returnType? t := by
  by_cases own : t = handler
  · obtain ⟨m, stored, stored'⟩ := surrounds.stored
    rw [own, MethodGraph.returnType?, MethodGraph.returnType?, stored, stored', Option.map_some,
      Option.map_some]
  · rw [MethodGraph.returnType?, surrounds.others t own, MethodGraph.returnType?]

theorem holds (surrounds : g.Surrounds g' handler before after) (p : Pattern) (t : Token)
    (held : g.source.Holds p t) : g'.source.Holds p t := by
  obtain ⟨b, known, x, w, y, occurs⟩ := held
  by_cases own : t = handler
  · obtain ⟨own_body, stored, stored'⟩ := surrounds.body?
    subst own
    obtain rfl : own_body = b := Option.some.inj (stored.symm.trans known)
    exact ⟨_, stored', _, w, _, occurs.surround before after⟩
  · have same : g'.body? t = g.body? t := by
      rw [MethodGraph.body?, surrounds.others t own, MethodGraph.body?]
    exact ⟨b, same.trans known, x, w, y, occurs⟩

theorem callees (surrounds : g.Surrounds g' handler before after) (consistent : g.Consistent)
    (consistent' : g'.Consistent) : g.callees handler ⊆ g'.callees handler := by
  obtain ⟨b, stored, stored'⟩ := surrounds.body?
  rw [callees_of_consistent consistent, callees_of_consistent consistent', stored, stored']
  exact b.callees_surround before after

theorem surrounded (surrounds : g.Surrounds g' handler before after) (consistent : g.Consistent)
    (consistent' : g'.Consistent) (argumentsField : Token) (virtualCode : Int32) :
    VirtualInstruction.Surrounded before after ⟨g.context argumentsField, virtualCode, handler⟩
      ⟨g'.context argumentsField, virtualCode, handler⟩ where
  body := by
    obtain ⟨b, stored, stored'⟩ := surrounds.body?
    have body : VirtualInstruction.body ⟨g.context argumentsField, virtualCode, handler⟩ = b :=
      VirtualInstruction.body_of_known stored
    rw [body]
    exact VirtualInstruction.body_of_known stored'
  callees := surrounds.callees consistent consistent'
  holds := surrounds.holds
  returnTypes := surrounds.returnType?_eq
  argumentsField := rfl

end MethodGraph.Surrounds

theorem MethodGraph.surrounds_insert {g : MethodGraph} {m : Method}
    (stored : g.method? m.token = some m) (before after : Body) :
    g.Surrounds (g.insert { m with body := before ++ m.body ++ after }) m.token before after where
  stored := ⟨m, stored, by simp [method?, insert]⟩
  others t other := by simp [method?, insert, Std.HashMap.getElem?_insert, other.symm]

/-- Code around a handler takes away no shape that asks only callees. Code behind it takes away
    only shapes that say how a body ends, and not even a store if it ends like one. -/
theorem recovery_of_surrounded (steps steps' : List MethodGraph.Step) (argumentsField : Token)
    (virtualCode : Int32) (handler : Token) (before after : Body)
    (surrounds : (MethodGraph.empty.after steps).Surrounds (MethodGraph.empty.after steps')
      handler before after) :
    ∃ v w, ((MethodGraph.empty.after steps).context argumentsField).instruction virtualCode
        handler = .ok v ∧
      ((MethodGraph.empty.after steps').context argumentsField).instruction virtualCode
        handler = .ok w ∧
      (∀ helper, (Shape.indirect helper).Survives v w) ∧
      (∀ helper flags, (Shape.discriminated helper flags).Survives v w) ∧
      (before = [] →
        (∀ stub, (Shape.opening stub).Survives v w) ∧
        (∀ stub helper, (Shape.delegating stub helper).Survives v w) ∧
        (∀ index, (Shape.argumentIndexLoad index).Survives v w) ∧
        (∀ width, (Shape.argumentAddressLoad width).Survives v w) ∧
        ((∃ rest, after.opcodes = rest ++ [.callvirt, .pop, .ret]) →
          ∀ width, (Shape.argumentStore width).Survives v w) ∧
        ∀ (p : Policy) (c : Opcode), c ∈ p.candidates v → c ∉ p.candidates w →
          c ∈ [.starg, .stargS] ++ wholeBodyOpcodes) := by
  have consistent := (MethodGraph.Represents.empty.after steps).consistent
  have consistent' := (MethodGraph.Represents.empty.after steps').consistent
  have surrounded := surrounds.surrounded consistent consistent' argumentsField virtualCode
  obtain ⟨b, stored, stored'⟩ := surrounds.body?
  refine ⟨_, _, Context.instruction_eq_ok_iff.mpr ⟨congrArg Option.isSome stored, rfl⟩,
    Context.instruction_eq_ok_iff.mpr ⟨congrArg Option.isSome stored', rfl⟩,
    surrounded.indirect, surrounded.discriminated, ?_⟩
  intro nothing
  subst nothing
  exact ⟨surrounded.opening, surrounded.delegating, surrounded.argumentIndexLoad,
    surrounded.argumentAddressLoad, surrounded.argumentStore,
    fun p _ => surrounded.lost_candidate p⟩

/-- Stores an argument, and calls itself for a helper that it contains. -/
def recursiveHandler : Method :=
  let plain (p : Pattern) : Body := p.map fun c => ⟨c, .absent⟩
  ⟨.methodDef 1, "Handler", "System.Void",
    ⟨.call, .methodRef (.methodDef 1)⟩ :: plain Generated.orHelper ++
      plain [.ldarg0, .ldfld, .ldloc0] ++ ⟨.callvirt, .methodRef (.methodDef 17)⟩ ::
      plain [.ldelem, .callvirt, .pop, .ret]⟩

def recursiveWorld : List MethodGraph.Step := [
  .insert ⟨.methodDef 17, "Accessor", "System.UInt16", []⟩,
  .insert recursiveHandler,
  .callees (.methodDef 1)]

def prolongedWorld (after : Body) : List MethodGraph.Step :=
  recursiveWorld ++ [.insert { recursiveHandler with body := [] ++ recursiveHandler.body ++ after }]

theorem recovery_of_recursiveHandler :
    let junk : Body := [⟨.nop, .absent⟩, ⟨.callvirt, .absent⟩, ⟨.pop, .absent⟩, ⟨.ret, .absent⟩]
    ∃ w, ((MethodGraph.empty.after (prolongedWorld junk)).context (.field 1)).instruction 5
        (.methodDef 1) = .ok w ∧
      (Shape.indirect Generated.orHelper).accepts w = true ∧
      (Shape.argumentStore .word).accepts w = true ∧ .or ∈ Policy.standard.candidates w := by
  intro junk
  have world := MethodGraph.Represents.empty.after recursiveWorld
  have stored : (MethodGraph.empty.after recursiveWorld).method? recursiveHandler.token =
      some recursiveHandler := (world.methods _).trans rfl
  have surrounds : (MethodGraph.empty.after recursiveWorld).Surrounds
      (MethodGraph.empty.after (prolongedWorld junk)) (.methodDef 1) [] junk :=
    MethodGraph.surrounds_insert stored [] junk
  obtain ⟨v, w, made, remade, asks, _, behind⟩ :=
    recovery_of_surrounded recursiveWorld (prolongedWorld junk) (.field 1) 5 _ [] junk surrounds
  obtain ⟨_, rfl⟩ := Context.instruction_eq_ok_iff.mp made
  rw [world.context] at asks behind
  obtain ⟨_, _, _, _, stores, lost⟩ := behind rfl
  refine ⟨w, remade, asks _ (by decide), stores ⟨[.nop], rfl⟩ .word (by decide), ?_⟩
  by_contra missing
  exact absurd (lost .standard .or (by decide) missing) (by decide)

end OpcodeRecovery
