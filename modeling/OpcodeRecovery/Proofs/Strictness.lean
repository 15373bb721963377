import OpcodeRecovery.Method.Declared
import OpcodeRecovery.Proofs.Batches
import OpcodeRecovery.Proofs.Priority

/-!
What is lost by being strict. Without the uncertain recognizers the candidates keep their order and
lose the uncertain opcodes. As those stand in the middle of the catalog, a strict policy can find an
opcode where a lenient one finds another, but it never finds one where the lenient finds none.
-/
namespace OpcodeRecovery

def uncertainOpcodes : List Opcode := [.cgt, .convR8, .ldarga, .ldargaS]

theorem confidence_eq_certain_iff :
    ∀ r ∈ catalog, r.confidence = .certain ↔ r.opcode ∉ uncertainOpcodes := by
  decide

namespace Policy
variable (p q : Policy) (v : VirtualInstruction)

theorem recognizers_strict :
    (p.withUncertain false).recognizers =
      catalog.filter fun r => r.opcode ∉ uncertainOpcodes := by
  refine List.filter_congr ?_
  intro r listed
  rw [Bool.eq_iff_iff, decide_eq_true_iff, ← confidence_eq_certain_iff r listed]
  exact beq_iff_eq

theorem candidates_strict :
    (p.withUncertain false).candidates v =
      ((q.withUncertain true).candidates v).filter fun c => c ∉ uncertainOpcodes := by
  have all : (q.withUncertain true).recognizers = catalog := recognizers_eq_catalog _ rfl
  simp only [candidates, recognizers_strict, all, List.filter_map, List.filter_filter,
    Function.comp_def, Bool.and_comm]

theorem recover?_strict :
    (p.withUncertain false).recover? v =
      ((q.withUncertain true).candidates v).find? fun c => c ∉ uncertainOpcodes := by
  rw [recover?_eq_head?, p.candidates_strict q, List.head?_filter]

theorem recover?_strict_of_certain {c : Opcode} (certain : c ∉ uncertainOpcodes)
    (recovered : (q.withUncertain true).recover? v = some c) :
    (p.withUncertain false).recover? v = some c := by
  rw [recover?_eq_head?, List.head?_eq_some_iff] at recovered
  obtain ⟨rest, listed⟩ := recovered
  rw [p.recover?_strict q, listed, List.find?_cons_of_pos (by simpa using certain)]

theorem recover?_strict_of_none (failed : (q.withUncertain true).recover? v = none) :
    (p.withUncertain false).recover? v = none := by
  rw [recover?_eq_head?, List.head?_eq_none_iff] at failed
  rw [p.recover?_strict q, failed, List.find?_nil]

theorem recover?_strict_of_uncertain {c : Opcode} (uncertain : c ∈ uncertainOpcodes)
    (recovered : (q.withUncertain true).recover? v = some c) :
    ∃ rest, (q.withUncertain true).candidates v = c :: rest ∧
      (p.withUncertain false).recover? v = rest.find? fun c => c ∉ uncertainOpcodes := by
  rw [recover?_eq_head?, List.head?_eq_some_iff] at recovered
  obtain ⟨rest, listed⟩ := recovered
  refine ⟨rest, listed, ?_⟩
  rw [p.recover?_strict q, listed, List.find?_cons_of_neg (by simpa using uncertain)]

theorem recover?_lenient_of_strict {d : Opcode}
    (recovered : (p.withUncertain false).recover? v = some d) :
    (q.withUncertain true).recover? v = some d ∨
      ∃ r ∈ catalog, ∃ s ∈ catalog, r.confidence = .uncertain ∧ s.opcode = d ∧
        r.priority < s.priority ∧ (q.withUncertain true).recover? v = some r.opcode := by
  obtain ⟨n, s, found, rfl, _⟩ := (recover?_eq_some_iff _ v).mp recovered
  have listed := List.mem_of_getElem? found.position
  obtain ⟨m, bound, r, position, first⟩ :=
    exists_recover?_of_acceptsAt (q.withUncertain true) v ⟨found.position, .inl rfl, found.accepted⟩
  have listed' := List.mem_of_getElem? position
  cases confidence : r.confidence with
  | certain =>
    have same := p.recover?_strict_of_certain q v
      ((confidence_eq_certain_iff r listed').mp confidence) first
    exact Or.inl (first.trans (same.symm.trans recovered))
  | uncertain =>
    rcases Nat.lt_or_eq_of_le bound with earlier | same
    · refine Or.inr ⟨r, listed', s, listed, confidence, rfl, ?_, first⟩
      rw [Recognizer.priority_of_getElem? position, Recognizer.priority_of_getElem? found.position]
      exact earlier
    · obtain rfl : r = s := by
        rw [same, found.position] at position
        exact (Option.some.inj position).symm
      exact Or.inl first

theorem unresolved_lenient_sublist (batch : List VirtualInstruction) :
    ((q.withUncertain true).recoverAll batch).unresolved.Sublist
      ((p.withUncertain false).recoverAll batch).unresolved := by
  rw [unresolved_recoverAll, unresolved_recoverAll]
  refine List.monotone_filter_right batch ?_
  intro v failed
  rw [Option.isNone_iff_eq_none] at failed ⊢
  exact p.recover?_strict_of_none q v failed

/-- A strict policy has the candidates of a lenient one but for the uncertain opcodes. It agrees on
    what is certain and on what fails, goes on behind what is uncertain, and finds nothing where
    the lenient policy finds nothing; so it leaves at least as much of a batch unresolved. -/
theorem recovery_if_strict (batch : List VirtualInstruction) :
    let strict := p.withUncertain false
    let lenient := q.withUncertain true
    (strict.candidates v =
      (lenient.candidates v).filter fun c => c ∉ [.cgt, .convR8, .ldarga, .ldargaS]) ∧
    (∀ r ∈ catalog, r.confidence = .certain → lenient.recover? v = some r.opcode →
      strict.recover? v = some r.opcode) ∧
    (lenient.recover? v = none → strict.recover? v = none) ∧
    (∀ r ∈ catalog, r.confidence = .uncertain → lenient.recover? v = some r.opcode →
      ∃ rest, lenient.candidates v = r.opcode :: rest ∧
        strict.recover? v = rest.find? fun c => c ∉ uncertainOpcodes) ∧
    (∀ d, strict.recover? v = some d → lenient.recover? v = some d ∨
      ∃ r ∈ catalog, ∃ s ∈ catalog, r.confidence = .uncertain ∧ s.opcode = d ∧
        r.priority < s.priority ∧ lenient.recover? v = some r.opcode) ∧
    (lenient.recoverAll batch).unresolved.Sublist (strict.recoverAll batch).unresolved := by
  intro strict lenient
  refine ⟨p.candidates_strict q v, ?_, p.recover?_strict_of_none q v, ?_,
    fun _ => p.recover?_lenient_of_strict q v, p.unresolved_lenient_sublist q batch⟩
  · intro r listed certain recovered
    exact p.recover?_strict_of_certain q v ((confidence_eq_certain_iff r listed).mp certain)
      recovered
  · intro r listed uncertain recovered
    refine p.recover?_strict_of_uncertain q v ?_ recovered
    by_contra other
    have certain := (confidence_eq_certain_iff r listed).mpr other
    rw [uncertain] at certain
    cases certain

end Policy

/-- Begins like a comparison and calls one method that contains the helpers. -/
def comparisonHandler (helpers : Pattern) : VirtualInstruction :=
  let operand : Opcode → Operand
    | .call => .methodRef (.methodDef 16)
    | _ => .absent
  let declared : Declarations := [
    ⟨.methodDef 1, some (Generated.compareStub.map fun c => ⟨c, operand c⟩), none, none⟩,
    ⟨.methodDef 16, some (helpers.map fun c => ⟨c, .absent⟩), none, none⟩]
  ⟨⟨declared.source [], .field 1⟩, 2, .methodDef 1⟩

theorem recovery_of_comparisons :
    let either := comparisonHandler (Generated.greaterThanHelper ++ Generated.lessThanHelper)
    let less := comparisonHandler Generated.lessThanHelper
    let neither := comparisonHandler []
    Policy.standard.recover? either = some .cgt ∧ Policy.strict.recover? either = some .clt ∧
    (∃ r ∈ catalog, ∃ s ∈ catalog, r.confidence = .uncertain ∧ s.opcode = .clt ∧
      r.priority < s.priority ∧ Policy.standard.recover? either = some r.opcode) ∧
    Policy.standard.recover? less = some .clt ∧ Policy.strict.recover? less = some .clt ∧
    Policy.standard.recover? neither = none ∧ Policy.strict.recover? neither = none ∧
    (Policy.standard.recoverAll [less, neither]).unresolved.Sublist
      (Policy.strict.recoverAll [less, neither]).unresolved := by
  intro either less neither
  have ambiguous : Policy.standard.recover? either = some .cgt := by decide
  have certain : Policy.standard.recover? less = some .clt := by decide
  have failed : Policy.standard.recover? neither = none := by decide
  obtain ⟨_, _, _, goesOn, prefers, _⟩ := Policy.recovery_if_strict .standard .standard either []
  obtain ⟨_, agrees, _, _, _, unresolved⟩ :=
    Policy.recovery_if_strict .standard .standard less [less, neither]
  obtain ⟨_, _, fails, _, _, _⟩ := Policy.recovery_if_strict .standard .standard neither []
  have next : Policy.strict.recover? either = some .clt := by
    obtain ⟨rest, listed, found⟩ := goesOn
      ⟨.cgt, .delegating Generated.compareStub Generated.greaterThanHelper, .uncertain⟩
      (by decide) rfl ambiguous
    have candidates : Policy.standard.candidates either = [.cgt, .clt] := by decide
    obtain rfl : [.clt] = rest := (List.cons.inj (candidates.symm.trans listed)).2
    exact found
  have same : Policy.strict.recover? less = some .clt :=
    agrees ⟨.clt, .delegating Generated.compareStub Generated.lessThanHelper, .certain⟩
      (by decide) rfl certain
  refine ⟨ambiguous, next, ?_, certain, same, failed, fails failed, unresolved⟩
  rcases prefers .clt next with alike | earlier
  · exact absurd (ambiguous.symm.trans alike) (by decide)
  · exact earlier

end OpcodeRecovery
