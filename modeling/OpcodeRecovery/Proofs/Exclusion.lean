import OpcodeRecovery.Catalog
import OpcodeRecovery.Method.Declared
import OpcodeRecovery.Proofs.Shapes

/-!
Recognizers that exclude each other. Many shapes say how a body begins, and no body begins in two
ways; and where recognizers differ only in a return type or in a constant, the instruction that
decides is the same one for all of them.
-/
namespace OpcodeRecovery

def VirtualInstruction.Matches (v : VirtualInstruction) (c : Opcode) : Prop :=
  ∃ r ∈ catalog, r.opcode = c ∧ r.accepts v = true

instance (v : VirtualInstruction) (c : Opcode) : Decidable (v.Matches c) :=
  inferInstanceAs (Decidable (∃ r ∈ catalog, r.opcode = c ∧ r.accepts v = true))

/-- How the body of every handler of the shape begins, as far as the shape tells. -/
def Shape.start : Shape → Pattern
  | .opening stub | .delegating stub _ => stub
  | .argumentIndexLoad index => Generated.argumentIndexLoad.fill index
  | .argumentLoad _ => Generated.argumentLoad
  | .constantLoad constant => Generated.constantLoad.fill constant
  | .indirect _ | .discriminated _ _ | .argumentStore _ | .argumentAddressLoad _ => []

theorem Shape.begins_of_accepts {s : Shape} {v : VirtualInstruction} (accepted : s.accepts v = true) :
    s.start <+: v.body.opcodes := by
  cases s with
  | opening stub => exact (v.body.startsWith_iff stub).mp accepted
  | delegating stub helper =>
    simp only [accepts, Bool.and_eq_true] at accepted
    exact (v.body.startsWith_iff stub).mp accepted.1
  | argumentIndexLoad index =>
    simp only [accepts, Bool.and_eq_true] at accepted
    exact (v.body.startsWith_iff _).mp accepted.1
  | argumentLoad width =>
    simp only [accepts, Bool.and_eq_true] at accepted
    rw [(v.body.isExactly_iff _).mp accepted.1.1]
    exact List.prefix_rfl
  | constantLoad constant =>
    rw [(v.body.isExactly_iff _).mp accepted]
    exact List.prefix_rfl
  | _ => exact List.nil_prefix

structure StartGroup where
  start : Pattern
  opcodes : List Opcode
  deriving DecidableEq, Repr

def startGroups : List StartGroup := [
  ⟨Generated.bgeStub, [.bge]⟩,
  ⟨Generated.bltStub, [.blt]⟩,
  ⟨Generated.compareStub, [.cgt, .clt]⟩,
  ⟨Generated.convR8Stub, [.convR8]⟩,
  ⟨Generated.argumentLoad, [.ldarg, .ldargS]⟩,
  ⟨[.ldarg0, .ldarg0, .ldfld], [.ldarg0, .ldarg1, .ldarg2, .ldarg3]⟩,
  ⟨[.ldarg0, .newobj, .stloc0, .ldloc0],
    [.ldcI4_0, .ldcI4_1, .ldcI4_2, .ldcI4_3, .ldcI4_4, .ldcI4_5, .ldcI4_6, .ldcI4_7, .ldcI4_8,
     .ldcI4M1]⟩]

theorem start_isPrefix_of_mem :
    ∀ g ∈ startGroups, ∀ r ∈ catalog, r.opcode ∈ g.opcodes → g.start <+: r.shape.start := by
  decide

theorem eq_of_start_isPrefix :
    ∀ g ∈ startGroups, ∀ h ∈ startGroups, g.start <+: h.start → g = h := by
  decide

theorem StartGroup.begins_of_matches {g : StartGroup} (listed : g ∈ startGroups) {c : Opcode}
    (member : c ∈ g.opcodes) {v : VirtualInstruction} (found : v.Matches c) :
    g.start <+: v.body.opcodes := by
  obtain ⟨r, recognizer, rfl, accepted⟩ := found
  exact (start_isPrefix_of_mem g listed r recognizer member).trans
    (Shape.begins_of_accepts accepted)

namespace Shape
variable {v : VirtualInstruction}

def withWidth (width : AccessorWidth) : Shape → Shape
  | .argumentStore _ => .argumentStore width
  | .argumentAddressLoad _ => .argumentAddressLoad width
  | .argumentLoad _ => .argumentLoad width
  | other => other

theorem width_eq_of_refersToReturning {i : Instruction} {a b : AccessorWidth}
    (first : v.RefersToReturning i a.returnType) (second : v.RefersToReturning i b.returnType) :
    a = b := by
  obtain ⟨m, method, returned⟩ := first
  obtain ⟨m', method', returned'⟩ := second
  obtain rfl : m = m' := Option.some.inj (method.symm.trans method')
  have same : a.returnType = b.returnType := Option.some.inj (returned.symm.trans returned')
  cases a <;> cases b <;> first | rfl | exact absurd same (by decide)

theorem withWidth_eq_of_accepts {s : Shape} {width : AccessorWidth}
    (accepted : s.accepts v = true) (accepted' : (s.withWidth width).accepts v = true) :
    s.withWidth width = s := by
  cases s with
  | argumentStore first =>
    obtain ⟨⟨_, w, _, here, i, at3, returns⟩, _⟩ := accepts_argumentStore_iff.mp accepted
    obtain ⟨⟨_, w', _, here', j, at3', returns'⟩, _⟩ := accepts_argumentStore_iff.mp accepted'
    obtain rfl := here.unique here'
    obtain rfl : i = j := Option.some.inj (at3.symm.trans at3')
    rw [withWidth, width_eq_of_refersToReturning returns returns']
  | argumentAddressLoad first =>
    obtain ⟨_, w, _, here, _, i, at4, returns⟩ := accepts_argumentAddressLoad_iff.mp accepted
    obtain ⟨_, w', _, here', _, j, at4', returns'⟩ := accepts_argumentAddressLoad_iff.mp accepted'
    obtain rfl := here.unique here'
    obtain rfl : i = j := Option.some.inj (at4.symm.trans at4')
    rw [withWidth, width_eq_of_refersToReturning returns returns']
  | argumentLoad first =>
    obtain ⟨_, ⟨i, at7, returns⟩, _⟩ := accepts_argumentLoad_iff.mp accepted
    obtain ⟨_, ⟨j, at7', returns'⟩, _⟩ := accepts_argumentLoad_iff.mp accepted'
    obtain rfl : i = j := Option.some.inj (at7.symm.trans at7')
    rw [withWidth, width_eq_of_refersToReturning returns returns']
  | _ => rfl

theorem start_eq_of_accepts {s s' : Shape} (accepted : s.accepts v = true)
    (accepted' : s'.accepts v = true) (size : s.start.length = s'.start.length) :
    s.start = s'.start :=
  (List.prefix_of_prefix_length_le (begins_of_accepts accepted) (begins_of_accepts accepted')
    (Nat.le_of_eq size)).eq_of_length size

theorem index_eq_of_accepts {c d : Opcode} (accepted : (argumentIndexLoad c).accepts v = true)
    (accepted' : (argumentIndexLoad d).accepts v = true) : c = d :=
  Template.eq_of_fill_eq (t := Generated.argumentIndexLoad) (by decide)
    (start_eq_of_accepts accepted accepted' (by simp [start, Template.length_fill]))

theorem constant_eq_of_accepts {c d : Opcode} (accepted : (constantLoad c).accepts v = true)
    (accepted' : (constantLoad d).accepts v = true) : c = d :=
  Template.eq_of_fill_eq (t := Generated.constantLoad) (by decide)
    (start_eq_of_accepts accepted accepted' (by simp [start, Template.length_fill]))

end Shape

def widthPairs : List (Opcode × Opcode) :=
  [(.ldarg, .ldargS), (.ldarga, .ldargaS), (.starg, .stargS)]

theorem shape_of_widthPair :
    ∀ pair ∈ widthPairs, ∀ r ∈ catalog, r.opcode = pair.1 → ∀ q ∈ catalog, q.opcode = pair.2 →
      q.shape = r.shape.withWidth .byte ∧ q.shape ≠ r.shape := by
  decide

theorem not_matches_both {v : VirtualInstruction} {pair : Opcode × Opcode}
    (listed : pair ∈ widthPairs) : ¬ (v.Matches pair.1 ∧ v.Matches pair.2) := by
  intro both
  obtain ⟨⟨r, recognizer, named, accepted⟩, q, recognizer', named', accepted'⟩ := both
  obtain ⟨same, differ⟩ := shape_of_widthPair pair listed r recognizer named q recognizer' named'
  rw [Recognizer.accepts, same] at accepted'
  exact differ (same.trans (Shape.withWidth_eq_of_accepts accepted accepted'))

/-- Recognizers that tell a start exclude each other unless they tell the same, and so do the two
    widths of an argument index and any two indices or constants. -/
theorem exclusive_matches (v : VirtualInstruction) :
    (∀ g ∈ startGroups, ∀ h ∈ startGroups, ∀ c ∈ g.opcodes, ∀ d ∈ h.opcodes,
      v.Matches c → v.Matches d → g = h) ∧
    (∀ pair ∈ widthPairs, ¬ (v.Matches pair.1 ∧ v.Matches pair.2)) ∧
    ∀ c d : Opcode, c ≠ d →
      ¬ ((Shape.argumentIndexLoad c).accepts v = true ∧
        (Shape.argumentIndexLoad d).accepts v = true) ∧
      ¬ ((Shape.constantLoad c).accepts v = true ∧ (Shape.constantLoad d).accepts v = true) := by
  refine ⟨?_, fun _ => not_matches_both, ?_⟩
  · intro g listed h listed' c member d member' found found'
    have start := StartGroup.begins_of_matches listed member found
    have start' := StartGroup.begins_of_matches listed' member' found'
    rcases List.prefix_or_prefix_of_prefix start start' with shorter | longer
    · exact eq_of_start_isPrefix g listed h listed' shorter
    · exact (eq_of_start_isPrefix h listed' g listed longer).symm
  · intro c d differ
    exact ⟨fun both => differ (Shape.index_eq_of_accepts both.1 both.2),
      fun both => differ (Shape.constant_eq_of_accepts both.1 both.2)⟩

/-- Begins like a load of argument 0 and goes on with element loads of both widths. -/
def twoWidthsHandler : VirtualInstruction :=
  let word : Instruction := ⟨.callvirt, .methodRef (.methodDef 17)⟩
  let byte : Instruction := ⟨.callvirt, .methodRef (.methodDef 18)⟩
  let element (accessor : Instruction) : Body :=
    [⟨.ldarg0, .absent⟩, ⟨.ldfld, .fieldRef (.field 2)⟩, ⟨.ldloc0, .absent⟩, accessor,
     ⟨.ldelem, .absent⟩]
  let declared : Declarations := [
    ⟨.methodDef 1, some (
      [⟨.ldarg0, .absent⟩, ⟨.ldarg0, .absent⟩, ⟨.ldfld, .fieldRef (.field 1)⟩, ⟨.ldcI4_0, .absent⟩,
       ⟨.ldelem, .absent⟩, ⟨.callvirt, .absent⟩, ⟨.call, .absent⟩, ⟨.ret, .absent⟩] ++
      element word ++ element byte ++ [⟨.callvirt, .absent⟩, ⟨.pop, .absent⟩, ⟨.ret, .absent⟩]),
      none, none⟩,
    ⟨.methodDef 17, none, some "System.UInt16", none⟩,
    ⟨.methodDef 18, none, some "System.Byte", none⟩]
  ⟨⟨declared.source [], .field 1⟩, 5, .methodDef 1⟩

theorem matches_of_twoWidthsHandler :
    twoWidthsHandler.Matches .ldarg0 ∧ twoWidthsHandler.Matches .starg ∧
    ¬ twoWidthsHandler.Matches .stargS ∧ ¬ twoWidthsHandler.Matches .bge ∧
    (Shape.argumentIndexLoad .ldcI4_1).accepts twoWidthsHandler = false := by
  have index : (Shape.argumentIndexLoad .ldcI4_0).accepts twoWidthsHandler = true := by decide
  have load : twoWidthsHandler.Matches .ldarg0 :=
    ⟨⟨.ldarg0, .argumentIndexLoad .ldcI4_0, .certain⟩, by decide, rfl, index⟩
  have store : twoWidthsHandler.Matches .starg :=
    ⟨⟨.starg, .argumentStore .word, .certain⟩, by decide, rfl, by decide⟩
  obtain ⟨starts, widths, fillings⟩ := exclusive_matches twoWidthsHandler
  refine ⟨load, store, ?_, ?_, ?_⟩
  · exact fun other => widths (.starg, .stargS) (by decide) ⟨store, other⟩
  · intro other
    have same := starts ⟨Generated.bgeStub, [.bge]⟩ (by decide)
      ⟨[.ldarg0, .ldarg0, .ldfld], [.ldarg0, .ldarg1, .ldarg2, .ldarg3]⟩ (by decide)
      .bge (by decide) .ldarg0 (by decide) other load
    exact absurd same (by decide)
  · exact Bool.eq_false_iff.mpr fun other =>
      (fillings .ldcI4_0 .ldcI4_1 (by decide)).1 ⟨index, other⟩

end OpcodeRecovery
