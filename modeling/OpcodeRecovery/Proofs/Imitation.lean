import OpcodeRecovery.Proofs.Shapes

/-!
Virtual instructions that imitate others. What a recognizer learns of a handler is little: of each
instruction its opcode, the method it calls, the truth value it pushes and the field it loads; of
each method called, which patterns its body holds and what it returns. Whoever shows at least as
much as another, perhaps under other tokens, has at least its shapes.
-/
namespace OpcodeRecovery

structure Instruction.Reading where
  opcode : Opcode
  callTarget? : Option Token
  truth? : Option Bool
  loadedField? : Option Token
  deriving DecidableEq, Repr

/-- A field counts as loaded only where the opcode is the load of a field. -/
def Instruction.reading (i : Instruction) : Instruction.Reading :=
  ⟨i.opcode, i.callTarget?, i.truth?, if i.opcode = .ldfld then i.field? else none⟩

def Instruction.Reading.rename (r : Token → Token) (x : Instruction.Reading) :
    Instruction.Reading :=
  { x with callTarget? := x.callTarget?.map r, loadedField? := x.loadedField?.map r }

/-- The second virtual instruction shows all that the first shows, under renamed tokens. -/
structure VirtualInstruction.Imitates (r : Token → Token) (v w : VirtualInstruction) : Prop where
  body : w.body.map Instruction.reading = v.body.map fun i => i.reading.rename r
  callees : ∀ t ∈ v.callees, r t ∈ w.callees
  holds : ∀ t, t ∈ v.body.callTargets ∨ t ∈ v.callees → ∀ p,
    v.context.methods.Holds p t → w.context.methods.Holds p (r t)
  returnType : ∀ t ∈ v.body.callTargets, ∀ type,
    v.context.methods.returnType? t = some type → w.context.methods.returnType? (r t) = some type
  argumentsField : w.context.argumentsField = r v.context.argumentsField

theorem Body.opcode_of_getElem? {b : Body} {k : Nat} {i : Instruction} (here : b[k]? = some i) :
    b.opcodes[k]? = some i.opcode := by
  simp [opcodes, here]

theorem Body.opcode_eq_of_getElem? {b : Body} {k : Nat} {i : Instruction} {c : Opcode}
    (here : b[k]? = some i) (read : b.opcodes[k]? = some c) : i.opcode = c :=
  Option.some.inj ((opcode_of_getElem? here).symm.trans read)

theorem Body.mem_callTargets_of_mem {b : Body} {i : Instruction} {t : Token} (member : i ∈ b)
    (called : i.callTarget? = some t) : t ∈ b.callTargets :=
  List.mem_filterMap.mpr ⟨i, member, called⟩

theorem Body.mem_callTargets_of_passesTo {b : Body} {flags : List Bool} {t : Token}
    (passes : b.PassesTo flags t) : t ∈ b.callTargets := by
  obtain ⟨before, arguments, call, after, split, called, _⟩ := passes
  exact mem_callTargets_of_mem (by simp [split]) called

theorem Pattern.Occurs.opcode_at {p : Pattern} {b x w y : Body} (occurs : p.Occurs b x w y)
    {k : Nat} {i : Instruction} (here : w[k]? = some i) : p[k]? = some i.opcode := by
  rw [← occurs.opcodes]
  exact Body.opcode_of_getElem? here

namespace VirtualInstruction.Imitates
variable {r : Token → Token} {v w : VirtualInstruction}

theorem opcodes (imitates : Imitates r v w) : w.body.opcodes = v.body.opcodes := by
  have read := congrArg (List.map Instruction.Reading.opcode) imitates.body
  simpa [Function.comp_def, Body.opcodes, Instruction.reading, Instruction.Reading.rename] using read

theorem counterpart (imitates : Imitates r v w) {k : Nat} {i : Instruction}
    (here : v.body[k]? = some i) :
    ∃ j, w.body[k]? = some j ∧ j.reading = i.reading.rename r := by
  have read := congrArg (·[k]?) imitates.body
  simpa [here] using read

theorem passesTo (imitates : Imitates r v w) {flags : List Bool} {t : Token}
    (passes : v.body.PassesTo flags t) : w.body.PassesTo flags (r t) := by
  have same := congrArg (List.map fun x => (x.callTarget?, x.truth?)) imitates.body
  rw [List.map_map, List.map_map] at same
  exact passes.rename same

theorem refersToReturning (imitates : Imitates r v w) {i j : Instruction} {type : String}
    (member : i ∈ v.body) (call : i.isCall = true) (same : j.reading = i.reading.rename r)
    (refers : v.RefersToReturning i type) : w.RefersToReturning j type := by
  obtain ⟨m, method, returned⟩ := refers
  have called : i.callTarget? = some m := by simp [Instruction.callTarget?, call, method]
  have target : j.callTarget? = some (r m) := by
    have read := congrArg Instruction.Reading.callTarget? same
    simpa [Instruction.reading, Instruction.Reading.rename, called] using read
  have called' : j.method? = some (r m) := by
    have opcode : j.opcode = i.opcode := congrArg Instruction.Reading.opcode same
    have call' : j.isCall = true := by rw [← call, Instruction.isCall, opcode, Instruction.isCall]
    simpa [Instruction.callTarget?, call'] using target
  have listed := Body.mem_callTargets_of_mem member called
  exact ⟨r m, called', imitates.returnType m listed type returned⟩

theorem refersToArguments (imitates : Imitates r v w) {i j : Instruction}
    (load : i.opcode = .ldfld) (same : j.reading = i.reading.rename r)
    (refers : v.RefersToArguments i) : w.RefersToArguments j := by
  have load' : j.opcode = .ldfld := (congrArg Instruction.Reading.opcode same).trans load
  have read := congrArg Instruction.Reading.loadedField? same
  rw [RefersToArguments] at refers
  simpa [RefersToArguments, Instruction.reading, Instruction.Reading.rename, load, load', refers,
    imitates.argumentsField] using read

/-- Windows of one pattern in the same position show the same, instruction by instruction. -/
theorem window_counterpart (imitates : Imitates r v w) {p : Pattern} {x z y x' z' y' : Body}
    (occurs : p.Occurs v.body x z y) (occurs' : p.Occurs w.body x' z' y')
    (start : x'.length = x.length) {k : Nat} {i : Instruction} (here : z[k]? = some i) :
    i ∈ v.body ∧ ∃ j, z'[k]? = some j ∧ j.reading = i.reading.rename r := by
  have bound : k < p.length := by
    rw [← occurs.length_window]
    exact (List.getElem?_eq_some_iff.mp here).1
  have inBody : v.body[x.length + k]? = some i := by rw [← occurs.getElem?_window bound, here]
  obtain ⟨j, there, same⟩ := imitates.counterpart inBody
  refine ⟨List.mem_of_getElem? inBody, j, ?_, same⟩
  rw [occurs'.getElem?_window bound, start, there]

theorem calleeContains (imitates : Imitates r v w) {p : Pattern}
    (found : v.calleeContains p = true) : w.calleeContains p = true := by
  obtain ⟨nonempty, t, called, held⟩ := calleeContains_iff.mp found
  exact calleeContains_iff.mpr
    ⟨nonempty, r t, imitates.callees t called, imitates.holds t (Or.inr called) p held⟩

theorem flaggedCallContains (imitates : Imitates r v w) {p : Pattern} {flags : List Bool}
    (found : v.flaggedCallContains p flags = true) : w.flaggedCallContains p flags = true := by
  obtain ⟨nonempty, t, passes, held⟩ := flaggedCallContains_iff.mp found
  have called := Body.mem_callTargets_of_passesTo passes
  exact flaggedCallContains_iff.mpr
    ⟨nonempty, r t, imitates.passesTo passes, imitates.holds t (Or.inl called) p held⟩

theorem startsWith (imitates : Imitates r v w) {p : Pattern}
    (found : v.body.startsWith p = true) : w.body.startsWith p = true := by
  rw [Body.startsWith, imitates.opcodes]
  exact found

theorem argumentStore (imitates : Imitates r v w) {width : AccessorWidth}
    (accepted : (Shape.argumentStore width).accepts v = true) :
    (Shape.argumentStore width).accepts w = true := by
  obtain ⟨⟨x, z, y, first, i, here, returns⟩, tail⟩ := Shape.accepts_argumentStore_iff.mp accepted
  obtain ⟨x', z', y', first', start⟩ := first.of_opcodes_eq imitates.opcodes
  obtain ⟨member, j, there, same⟩ :=
    imitates.window_counterpart first.toOccurs first'.toOccurs start here
  have accessor : i.opcode = .callvirt := by simpa using (first.opcode_at here).symm
  have call : i.isCall = true := by simp [Instruction.isCall, accessor, Opcode.isCall]
  refine Shape.accepts_argumentStore_iff.mpr ⟨⟨x', z', y', first', j, there, ?_⟩, ?_⟩
  · exact imitates.refersToReturning member call same returns
  · rw [imitates.opcodes]
    exact tail

theorem argumentAddressLoad (imitates : Imitates r v w) {width : AccessorWidth}
    (accepted : (Shape.argumentAddressLoad width).accepts v = true) :
    (Shape.argumentAddressLoad width).accepts w = true := by
  obtain ⟨x, z, y, first, ⟨i, here, loads⟩, k, hereToo, returns⟩ :=
    Shape.accepts_argumentAddressLoad_iff.mp accepted
  obtain ⟨x', z', y', first', start⟩ := first.of_opcodes_eq imitates.opcodes
  obtain ⟨_, j, there, same⟩ :=
    imitates.window_counterpart first.toOccurs first'.toOccurs start here
  obtain ⟨member, l, thereToo, sameToo⟩ :=
    imitates.window_counterpart first.toOccurs first'.toOccurs start hereToo
  have load : i.opcode = .ldfld := by simpa using (first.opcode_at here).symm
  have accessor : k.opcode = .callvirt := by simpa using (first.opcode_at hereToo).symm
  have call : k.isCall = true := by simp [Instruction.isCall, accessor, Opcode.isCall]
  refine Shape.accepts_argumentAddressLoad_iff.mpr
    ⟨x', z', y', first', ⟨j, there, ?_⟩, l, thereToo, ?_⟩
  · exact imitates.refersToArguments load same loads
  · exact imitates.refersToReturning member call sameToo returns

theorem argumentIndexLoad (imitates : Imitates r v w) {index : Opcode}
    (accepted : (Shape.argumentIndexLoad index).accepts v = true) :
    (Shape.argumentIndexLoad index).accepts w = true := by
  obtain ⟨⟨rest, start⟩, i, here, loads⟩ := Shape.accepts_argumentIndexLoad_iff.mp accepted
  obtain ⟨j, there, same⟩ := imitates.counterpart here
  have load : i.opcode = .ldfld := Body.opcode_eq_of_getElem? here (by rw [start]; rfl)
  refine Shape.accepts_argumentIndexLoad_iff.mpr ⟨⟨rest, ?_⟩, j, there, ?_⟩
  · rw [imitates.opcodes, start]
  · exact imitates.refersToArguments load same loads

theorem argumentLoad (imitates : Imitates r v w) {width : AccessorWidth}
    (accepted : (Shape.argumentLoad width).accepts v = true) :
    (Shape.argumentLoad width).accepts w = true := by
  obtain ⟨exact, ⟨i, here, returns⟩, k, hereToo, loads⟩ :=
    Shape.accepts_argumentLoad_iff.mp accepted
  obtain ⟨j, there, same⟩ := imitates.counterpart here
  obtain ⟨l, thereToo, sameToo⟩ := imitates.counterpart hereToo
  have accessor : i.opcode = .callvirt := Body.opcode_eq_of_getElem? here (by rw [exact]; rfl)
  have load : k.opcode = .ldfld := Body.opcode_eq_of_getElem? hereToo (by rw [exact]; rfl)
  have call : i.isCall = true := by simp [Instruction.isCall, accessor, Opcode.isCall]
  refine Shape.accepts_argumentLoad_iff.mpr ⟨?_, ⟨j, there, ?_⟩, l, thereToo, ?_⟩
  · rw [imitates.opcodes, exact]
  · exact imitates.refersToReturning (List.mem_of_getElem? here) call same returns
  · exact imitates.refersToArguments load sameToo loads

theorem accepts (imitates : Imitates r v w) {s : Shape} (accepted : s.accepts v = true) :
    s.accepts w = true := by
  cases s with
  | indirect helper => exact imitates.calleeContains accepted
  | discriminated helper flags => exact imitates.flaggedCallContains accepted
  | opening stub => exact imitates.startsWith accepted
  | delegating stub helper =>
    simp only [Shape.accepts, Bool.and_eq_true] at accepted ⊢
    exact ⟨imitates.startsWith accepted.1, imitates.calleeContains accepted.2⟩
  | argumentStore width => exact imitates.argumentStore accepted
  | argumentIndexLoad index => exact imitates.argumentIndexLoad accepted
  | argumentAddressLoad width => exact imitates.argumentAddressLoad accepted
  | argumentLoad width => exact imitates.argumentLoad accepted
  | constantLoad constant =>
    rw [Shape.accepts, Body.isExactly, imitates.opcodes]
    exact accepted

end VirtualInstruction.Imitates
end OpcodeRecovery
