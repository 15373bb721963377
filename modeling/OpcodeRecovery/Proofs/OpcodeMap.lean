import Mathlib.Data.List.Induction
import Std.Data.TreeMap.Lemmas
import OpcodeRecovery.Method.Declared
import OpcodeRecovery.Proofs.Batches

/-!
The opcode of each virtual code in a batch. Every instruction that is identified overwrites what was
known of its virtual code, and one that is not leaves it alone: so the last that is identified
counts. The order of the batch does not matter if no virtual code is given to two handlers.
-/
namespace OpcodeRecovery

def Policy.verdictFor? (p : Policy) (k : Int32) (v : VirtualInstruction) : Option Opcode :=
  if v.virtualCode = k then p.recover? v else none

/-- The batch is of one machine, which gives no virtual code to two handlers. -/
structure Context.NumbersHandlers (c : Context) (batch : List VirtualInstruction) : Prop where
  context : ∀ v ∈ batch, v.context = c
  handler : ∀ v ∈ batch, ∀ w ∈ batch, v.virtualCode = w.virtualCode → v.handler = w.handler

namespace Context.NumbersHandlers
variable {c : Context} {batch batch' : List VirtualInstruction}

theorem eq_of_virtualCode_eq (numbers : c.NumbersHandlers batch) {v w : VirtualInstruction}
    (member : v ∈ batch) (member' : w ∈ batch) (same : v.virtualCode = w.virtualCode) : v = w := by
  have context : v.context = w.context :=
    (numbers.context v member).trans (numbers.context w member').symm
  have handler := numbers.handler v member w member' same
  obtain ⟨_, _, _⟩ := v
  obtain ⟨_, _, _⟩ := w
  simp_all

theorem of_perm (numbers : c.NumbersHandlers batch) (order : batch'.Perm batch) :
    c.NumbersHandlers batch' where
  context v member := numbers.context v (order.mem_iff.mp member)
  handler v member w member' :=
    numbers.handler v (order.mem_iff.mp member) w (order.mem_iff.mp member')

end Context.NumbersHandlers

theorem Report.opcodeMap_equiv {r r' : Report}
    (same : ∀ k : Int32, r.opcodeMap[k]? = r'.opcodeMap[k]?) : r.opcodeMap.Equiv r'.opcodeMap :=
  Std.TreeMap.Equiv.of_forall_constGet?_eq same

namespace Policy
variable (p : Policy)

theorem verdictFor?_eq_some_iff {k : Int32} {v : VirtualInstruction} {c : Opcode} :
    p.verdictFor? k v = some c ↔ v.virtualCode = k ∧ p.recover? v = some c := by
  rw [verdictFor?, Option.ite_none_right_eq_some]

theorem verdictFor?_eq_none_iff {k : Int32} {v : VirtualInstruction} :
    p.verdictFor? k v = none ↔ (v.virtualCode = k → p.recover? v = none) := by
  by_cases own : v.virtualCode = k <;> simp [verdictFor?, own]

theorem getElem?_opcodeMap_concat (batch : List VirtualInstruction) (v : VirtualInstruction)
    (k : Int32) :
    (p.recoverAll (batch ++ [v])).opcodeMap[k]? =
      (p.verdictFor? k v).or (p.recoverAll batch).opcodeMap[k]? := by
  simp only [Report.opcodeMap, identified_recoverAll, List.filterMap_append, List.foldl_append]
  cases verdict : p.recover? v with
  | none => simp [verdictFor?, verdict]
  | some c =>
    by_cases own : v.virtualCode = k
    · simp [verdictFor?, verdict, own]
    · simp [verdictFor?, verdict, own, Std.TreeMap.getElem?_insert]

theorem getElem?_opcodeMap (batch : List VirtualInstruction) (k : Int32) :
    (p.recoverAll batch).opcodeMap[k]? = batch.reverse.findSome? (p.verdictFor? k) := by
  induction batch using List.reverseRecOn with
  | nil =>
    rw [Report.opcodeMap, identified_recoverAll]
    exact Std.TreeMap.getElem?_emptyc
  | append_singleton batch v ih =>
    rw [getElem?_opcodeMap_concat, ih, List.reverse_append, List.findSome?_append,
      List.reverse_singleton, List.findSome?_singleton]

theorem getElem?_opcodeMap_eq_some_iff {batch : List VirtualInstruction} {k : Int32} {c : Opcode} :
    (p.recoverAll batch).opcodeMap[k]? = some c ↔
      ∃ earlier v later, batch = earlier ++ v :: later ∧ v.virtualCode = k ∧
        p.recover? v = some c ∧ ∀ w ∈ later, w.virtualCode = k → p.recover? w = none := by
  rw [getElem?_opcodeMap, List.findSome?_eq_some_iff]
  -- The batch is searched backwards, so what was passed over stands later in it.
  simp only [verdictFor?_eq_some_iff, verdictFor?_eq_none_iff]
  constructor
  · intro found
    obtain ⟨later, v, earlier, reversed, own, others⟩ := found
    refine ⟨earlier.reverse, v, later.reverse, ?_, own.1, own.2, ?_⟩
    · rw [← batch.reverse_reverse, reversed]
      simp
    · intro w member
      exact others w (List.mem_reverse.mp member)
  · intro found
    obtain ⟨earlier, v, later, split, code, verdict, others⟩ := found
    refine ⟨later.reverse, v, earlier.reverse, by simp [split], ⟨code, verdict⟩, ?_⟩
    intro w member
    exact others w (List.mem_reverse.mp member)

theorem getElem?_opcodeMap_append (batch batch' : List VirtualInstruction) (k : Int32) :
    (p.recoverAll (batch ++ batch')).opcodeMap[k]? =
      (p.recoverAll batch').opcodeMap[k]?.or (p.recoverAll batch).opcodeMap[k]? := by
  simp only [getElem?_opcodeMap, List.reverse_append, List.findSome?_append]

theorem mem_opcodeMap_iff {batch : List VirtualInstruction} {k : Int32} :
    k ∈ (p.recoverAll batch).opcodeMap ↔
      ∃ v ∈ batch, v.virtualCode = k ∧ ∃ c, p.recover? v = some c := by
  rw [Std.TreeMap.mem_iff_isSome_getElem?, getElem?_opcodeMap, List.findSome?_isSome_iff]
  simp only [List.mem_reverse, Option.isSome_iff_exists, verdictFor?_eq_some_iff, exists_and_left]

theorem opcodeMap_without_unresolved (earlier later : List VirtualInstruction)
    {v : VirtualInstruction} (unresolved : p.recover? v = none) :
    (p.recoverAll (earlier ++ v :: later)).opcodeMap.Equiv
      (p.recoverAll (earlier ++ later)).opcodeMap := by
  refine Report.opcodeMap_equiv fun k => ?_
  have silent : p.verdictFor? k v = none := p.verdictFor?_eq_none_iff.mpr fun _ => unresolved
  have moved : earlier ++ v :: later = (earlier ++ [v]) ++ later := by simp
  rw [moved, getElem?_opcodeMap_append, getElem?_opcodeMap_concat, silent, Option.none_or,
    ← getElem?_opcodeMap_append]

theorem getElem?_opcodeMap_of_numbersHandlers {c : Context} {batch : List VirtualInstruction}
    (numbers : c.NumbersHandlers batch) {k : Int32} {d : Opcode} :
    (p.recoverAll batch).opcodeMap[k]? = some d ↔
      ∃ v ∈ batch, v.virtualCode = k ∧ p.recover? v = some d := by
  constructor
  · intro found
    obtain ⟨earlier, v, later, split, own, verdict, _⟩ := p.getElem?_opcodeMap_eq_some_iff.mp found
    exact ⟨v, by simp [split], own, verdict⟩
  · intro judged
    obtain ⟨v, member, own, verdict⟩ := judged
    have known : k ∈ (p.recoverAll batch).opcodeMap :=
      p.mem_opcodeMap_iff.mpr ⟨v, member, own, d, verdict⟩
    obtain ⟨e, found⟩ := Option.isSome_iff_exists.mp (Std.TreeMap.mem_iff_isSome_getElem?.mp known)
    obtain ⟨earlier, w, later, split, own', verdict', _⟩ :=
      p.getElem?_opcodeMap_eq_some_iff.mp found
    obtain rfl : v = w :=
      numbers.eq_of_virtualCode_eq member (by simp [split]) (own.trans own'.symm)
    rw [found, ← verdict', verdict]

theorem opcodeMap_of_perm {c : Context} {batch batch' : List VirtualInstruction}
    (numbers : c.NumbersHandlers batch) (order : batch'.Perm batch) :
    (p.recoverAll batch').opcodeMap.Equiv (p.recoverAll batch).opcodeMap := by
  refine Report.opcodeMap_equiv fun k => ?_
  ext d
  rw [p.getElem?_opcodeMap_of_numbersHandlers (numbers.of_perm order),
    p.getElem?_opcodeMap_of_numbersHandlers numbers]
  simp only [order.mem_iff]

theorem opcodeMap_of_member {c : Context} {batch : List VirtualInstruction}
    (numbers : c.NumbersHandlers batch) {v : VirtualInstruction} (member : v ∈ batch) :
    (p.recoverAll batch).opcodeMap[v.virtualCode]? = p.recover? v := by
  ext d
  rw [p.getElem?_opcodeMap_of_numbersHandlers numbers]
  constructor
  · intro judged
    obtain ⟨w, member', own, verdict⟩ := judged
    rw [numbers.eq_of_virtualCode_eq member member' own.symm]
    exact verdict
  · intro verdict
    exact ⟨v, member, rfl, verdict⟩

/-- A virtual code has an opcode if an instruction of it is identified, and of several the last
    counts, whatever is left unresolved. A second batch overrides the first. If no virtual code is
    given to two handlers, the order of the batch does not matter, and the opcode of a virtual code
    is the verdict on any instruction of it. -/
theorem opcodeMap_of_batch (batch : List VirtualInstruction) :
    (∀ k, k ∈ (p.recoverAll batch).opcodeMap ↔
      ∃ v ∈ batch, v.virtualCode = k ∧ ∃ c, p.recover? v = some c) ∧
    (∀ (k : Int32) (c : Opcode), (p.recoverAll batch).opcodeMap[k]? = some c ↔
      ∃ earlier v later, batch = earlier ++ v :: later ∧ v.virtualCode = k ∧
        p.recover? v = some c ∧ ∀ w ∈ later, w.virtualCode = k → p.recover? w = none) ∧
    (∀ earlier v later, batch = earlier ++ v :: later → p.recover? v = none →
      (p.recoverAll batch).opcodeMap.Equiv (p.recoverAll (earlier ++ later)).opcodeMap) ∧
    (∀ (batch' : List VirtualInstruction) (k : Int32),
      (p.recoverAll (batch ++ batch')).opcodeMap[k]? =
        (p.recoverAll batch').opcodeMap[k]?.or (p.recoverAll batch).opcodeMap[k]?) ∧
    ∀ c : Context, c.NumbersHandlers batch →
      (∀ batch' : List VirtualInstruction, batch'.Perm batch →
        (p.recoverAll batch').opcodeMap.Equiv (p.recoverAll batch).opcodeMap) ∧
      ∀ v ∈ batch, (p.recoverAll batch).opcodeMap[v.virtualCode]? = p.recover? v := by
  refine ⟨fun _ => p.mem_opcodeMap_iff, fun _ _ => p.getElem?_opcodeMap_eq_some_iff, ?_,
    p.getElem?_opcodeMap_append batch, ?_⟩
  · intro earlier v later split unresolved
    rw [split]
    exact p.opcodeMap_without_unresolved earlier later unresolved
  · intro c numbers
    exact ⟨fun _ => p.opcodeMap_of_perm numbers, fun _ => p.opcodeMap_of_member numbers⟩

end Policy

/-- A machine with two handlers that call a helper each and a third that calls nothing. -/
def smallMachine : Context :=
  let plain (p : Pattern) : Body := p.map fun c => ⟨c, .absent⟩
  let calling (t : Token) : Body := [⟨.call, .methodRef t⟩, ⟨.ret, .absent⟩]
  let declared : Declarations := [
    ⟨.methodDef 1, some (calling (.methodDef 16)), none, none⟩,
    ⟨.methodDef 2, some (calling (.methodDef 17)), none, none⟩,
    ⟨.methodDef 3, some (plain [.ret]), none, none⟩,
    ⟨.methodDef 16, some (plain Generated.orHelper), none, none⟩,
    ⟨.methodDef 17, some (plain Generated.xorHelper), none, none⟩]
  ⟨declared.source [], .field 1⟩

theorem opcodeMap_of_smallMachine :
    let numbered (k : Int32) (row : UInt32) : VirtualInstruction :=
      ⟨smallMachine, k, .methodDef row⟩
    let conflict := [numbered 7 1, numbered 7 2, numbered 7 3]
    let batch := [numbered 7 2, numbered 8 3, numbered 7 2, numbered 9 1]
    let opcodes (batch : List VirtualInstruction) := (Policy.standard.recoverAll batch).opcodeMap
    (opcodes conflict)[(7 : Int32)]? = some .xor ∧
    (opcodes conflict).Equiv (opcodes [numbered 7 1, numbered 7 2]) ∧
    smallMachine.NumbersHandlers batch ∧ (opcodes batch.reverse).Equiv (opcodes batch) ∧
    (opcodes batch)[(8 : Int32)]? = none ∧ (opcodes batch)[(7 : Int32)]? = some .xor := by
  intro numbered conflict batch opcodes
  have left : Policy.standard.recover? (numbered 7 3) = none := by decide
  have other : Policy.standard.recover? (numbered 8 3) = none := by decide
  have found : Policy.standard.recover? (numbered 7 2) = some .xor := by decide
  obtain ⟨_, last, silent, _, _⟩ := Policy.opcodeMap_of_batch .standard conflict
  obtain ⟨_, _, _, _, consistent⟩ := Policy.opcodeMap_of_batch .standard batch
  have numbers : smallMachine.NumbersHandlers batch := by
    constructor
    · intro v member
      simp only [batch, List.mem_cons, List.not_mem_nil, or_false] at member
      rcases member with rfl | rfl | rfl | rfl <;> rfl
    · decide
  obtain ⟨ordered, own⟩ := consistent smallMachine numbers
  refine ⟨(last 7 .xor).mpr ?_, silent [numbered 7 1, numbered 7 2] (numbered 7 3) [] rfl left,
    numbers, ordered _ batch.reverse_perm, ?_, ?_⟩
  · refine ⟨[numbered 7 1], numbered 7 2, [numbered 7 3], rfl, rfl, found, ?_⟩
    intro w member _
    rw [List.mem_singleton.mp member]
    exact left
  · exact (own (numbered 8 3) (by simp [batch])).trans other
  · exact (own (numbered 7 2) (by simp [batch])).trans found

end OpcodeRecovery
