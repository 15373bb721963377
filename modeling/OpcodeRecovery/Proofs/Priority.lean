import Mathlib.Data.List.Nodup
import OpcodeRecovery.Policy

/-!
Recovery goes by priority. The opcode recovered is that of the first position of the catalog at
which a recognizer is consulted and accepts, and all ways to ask for it agree: the list of
candidates starts with it, an error stands for its absence, and so does the unknown opcode.
-/
namespace OpcodeRecovery

/-- In this position of the catalog stands a recognizer that is consulted and accepts. -/
structure Policy.AcceptsAt (p : Policy) (v : VirtualInstruction) (n : Nat) (r : Recognizer) :
    Prop where
  position : catalog[n]? = some r
  consulted : p.includeUncertain = true ∨ r.confidence = .certain
  accepted : r.accepts v = true

theorem nodup_catalog_opcodes : (catalog.map Recognizer.opcode).Nodup := by decide

theorem unknown_not_mem_catalog_opcodes : Opcode.unknown ∉ catalog.map Recognizer.opcode := by
  decide

namespace Recognizer
variable {r s : Recognizer}

theorem eq_of_opcode_eq (listed : r ∈ catalog) (listed' : s ∈ catalog)
    (same : r.opcode = s.opcode) : r = s :=
  List.inj_on_of_nodup_map nodup_catalog_opcodes listed listed' same

theorem priority_of_getElem? {n : Nat} (position : catalog[n]? = some r) : r.priority = n := by
  obtain ⟨bound, rfl⟩ := List.getElem?_eq_some_iff.mp position
  exact nodup_catalog_opcodes.of_map.idxOf_getElem n bound

end Recognizer

namespace Policy
variable (p : Policy) (v : VirtualInstruction)

theorem consults_iff {r : Recognizer} :
    p.consults r = true ↔ p.includeUncertain = true ∨ r.confidence = .certain := by
  rw [consults, Bool.or_eq_true, beq_iff_eq]

theorem recognizers_eq_catalog (lenient : p.includeUncertain = true) : p.recognizers = catalog := by
  refine List.filter_eq_self.mpr ?_
  intro r _
  exact p.consults_iff.mpr (.inl lenient)

theorem mem_recognizers_of_certain {r : Recognizer} (listed : r ∈ catalog)
    (certain : r.confidence = .certain) : r ∈ p.recognizers :=
  List.mem_filter.mpr ⟨listed, p.consults_iff.mpr (.inr certain)⟩

theorem find?_recognizers :
    (p.recognizers.find? fun r => r.accepts v) =
      catalog.find? fun r => p.consults r && r.accepts v := by
  simp [recognizers, List.find?_filter]

theorem exists_acceptsAt_iff {r : Recognizer} :
    (∃ n, p.AcceptsAt v n r) ↔ r ∈ p.recognizers ∧ r.accepts v = true := by
  rw [recognizers, List.mem_filter, List.mem_iff_getElem?, consults_iff]
  constructor
  · intro somewhere
    obtain ⟨n, position, consulted, accepted⟩ := somewhere
    exact ⟨⟨⟨n, position⟩, consulted⟩, accepted⟩
  · intro among
    obtain ⟨⟨⟨n, position⟩, consulted⟩, accepted⟩ := among
    exact ⟨n, position, consulted, accepted⟩

theorem find?_recognizers_eq_some_iff {r : Recognizer} :
    (p.recognizers.find? fun r => r.accepts v) = some r ↔
      ∃ n, p.AcceptsAt v n r ∧ ∀ m < n, ∀ q, ¬ p.AcceptsAt v m q := by
  rw [find?_recognizers, List.find?_eq_some_iff_getElem]
  simp only [Bool.and_eq_true, consults_iff]
  constructor
  · intro found
    obtain ⟨⟨consulted, accepted⟩, n, bound, here, earlier⟩ := found
    refine ⟨n, ⟨List.getElem?_eq_some_iff.mpr ⟨bound, here⟩, consulted, accepted⟩, ?_⟩
    intro m small q first
    obtain ⟨_, there⟩ := List.getElem?_eq_some_iff.mp first.position
    have refused := earlier m small
    rw [there] at refused
    simp [p.consults_iff.mpr first.consulted, first.accepted] at refused
  · intro leading
    obtain ⟨n, first, earlier⟩ := leading
    obtain ⟨bound, here⟩ := List.getElem?_eq_some_iff.mp first.position
    refine ⟨⟨first.consulted, first.accepted⟩, n, bound, here, ?_⟩
    intro m small
    have inside : m < catalog.length := Nat.lt_trans small bound
    by_contra taken
    have both : p.consults catalog[m] = true ∧ catalog[m].accepts v = true := by
      simpa using taken
    exact earlier m small _
      ⟨List.getElem?_eq_getElem inside, p.consults_iff.mp both.1, both.2⟩

theorem recover?_eq_some_iff {c : Opcode} :
    p.recover? v = some c ↔
      ∃ n r, p.AcceptsAt v n r ∧ r.opcode = c ∧ ∀ m < n, ∀ q, ¬ p.AcceptsAt v m q := by
  rw [recover?_eq_find?, Option.map_eq_some_iff]
  simp only [find?_recognizers_eq_some_iff]
  constructor
  · intro found
    obtain ⟨r, ⟨n, first, earlier⟩, named⟩ := found
    exact ⟨n, r, first, named, earlier⟩
  · intro leading
    obtain ⟨n, r, first, named, earlier⟩ := leading
    exact ⟨r, ⟨n, first, earlier⟩, named⟩

theorem mem_candidates_iff {c : Opcode} :
    c ∈ p.candidates v ↔ ∃ n r, p.AcceptsAt v n r ∧ r.opcode = c := by
  rw [exists_comm]
  simp only [candidates, List.mem_map, List.mem_filter, ← exists_acceptsAt_iff,
    exists_and_right]

theorem candidates_sublist : (p.candidates v).Sublist (catalog.map Recognizer.opcode) :=
  (List.filter_sublist.trans List.filter_sublist).map Recognizer.opcode

theorem nodup_candidates : (p.candidates v).Nodup :=
  (p.candidates_sublist v).nodup nodup_catalog_opcodes

theorem recover?_eq_head? : p.recover? v = (p.candidates v).head? := by
  rw [recover?_eq_find?, candidates, List.head?_map, List.head?_filter]

theorem recover?_ne_unknown : p.recover? v ≠ some .unknown := by
  intro recovered
  rw [recover?_eq_head?] at recovered
  have member := List.mem_of_mem_head? recovered
  exact unknown_not_mem_catalog_opcodes ((p.candidates_sublist v).subset member)

theorem recover_eq_ok_iff {c : Opcode} : p.recover v = .ok c ↔ p.recover? v = some c := by
  unfold recover
  cases p.recover? v <;> simp

theorem recover_eq_error_iff {e : RecoveryError} :
    p.recover v = .error e ↔ p.recover? v = none ∧ e = .unidentified v := by
  unfold recover
  cases p.recover? v <;> simp [eq_comm]

theorem recoverOrUnknown_eq_unknown_iff :
    p.recoverOrUnknown v = .unknown ↔ p.candidates v = [] := by
  have known := p.recover?_ne_unknown v
  rw [← List.head?_eq_none_iff, ← recover?_eq_head?, recoverOrUnknown]
  cases recovered : p.recover? v with
  | none => simp
  | some c =>
    rw [recovered] at known
    simpa using known

theorem acceptsAt_of_recover? {n : Nat} {r : Recognizer} (position : catalog[n]? = some r)
    (recovered : p.recover? v = some r.opcode) : p.AcceptsAt v n r := by
  obtain ⟨m, q, first, named, _⟩ := (p.recover?_eq_some_iff v).mp recovered
  obtain rfl := Recognizer.eq_of_opcode_eq (List.mem_of_getElem? first.position)
    (List.mem_of_getElem? position) named
  exact ⟨position, first.consulted, first.accepted⟩

theorem exists_recover?_of_acceptsAt {n : Nat} {r : Recognizer} (accepts : p.AcceptsAt v n r) :
    ∃ m ≤ n, ∃ q, catalog[m]? = some q ∧ p.recover? v = some q.opcode := by
  have candidate : r.opcode ∈ p.candidates v := (p.mem_candidates_iff v).mpr ⟨n, r, accepts, rfl⟩
  obtain ⟨c, rest, listed⟩ := List.exists_cons_of_ne_nil (List.ne_nil_of_mem candidate)
  have recovered : p.recover? v = some c := by rw [p.recover?_eq_head? v, listed, List.head?_cons]
  obtain ⟨m, q, first, rfl, earlier⟩ := (p.recover?_eq_some_iff v).mp recovered
  refine ⟨m, ?_, q, first.position, recovered⟩
  by_contra later
  exact earlier n (by omega) r accepts

theorem priority_le_of_recover? {r s : Recognizer} (listed : r ∈ catalog)
    (recovered : p.recover? v = some r.opcode) (consulted : s ∈ p.recognizers)
    (accepted : s.accepts v = true) : r.priority ≤ s.priority := by
  obtain ⟨m, there⟩ := (p.exists_acceptsAt_iff v).mpr ⟨consulted, accepted⟩
  obtain ⟨n, q, first, named, earlier⟩ := (p.recover?_eq_some_iff v).mp recovered
  obtain rfl := Recognizer.eq_of_opcode_eq (List.mem_of_getElem? first.position) listed named
  rw [Recognizer.priority_of_getElem? first.position, Recognizer.priority_of_getElem? there.position]
  by_contra smaller
  exact earlier m (by omega) s there

theorem candidates_sublist_of_accepts {w : VirtualInstruction}
    (accepts : ∀ r : Recognizer, r.accepts v = true → r.accepts w = true) :
    (p.candidates v).Sublist (p.candidates w) :=
  (List.monotone_filter_right p.recognizers accepts).map Recognizer.opcode

/-- The candidates are the opcodes of the positions that accept, in the order of the catalog and
    each once; recovery takes the first of them, and all its forms agree on that. -/
theorem recovery_by_priority :
    (∀ c, p.recover? v = some c ↔
      ∃ n r, p.AcceptsAt v n r ∧ r.opcode = c ∧ ∀ m < n, ∀ q, ¬ p.AcceptsAt v m q) ∧
    ((p.candidates v).Nodup ∧ (p.candidates v).Sublist (catalog.map Recognizer.opcode) ∧
      ∀ c, c ∈ p.candidates v ↔ ∃ n r, p.AcceptsAt v n r ∧ r.opcode = c) ∧
    p.recover? v = (p.candidates v).head? ∧
    (∀ c, p.recover v = .ok c ↔ p.recover? v = some c) ∧
    (∀ e, p.recover v = .error e ↔ p.recover? v = none ∧ e = .unidentified v) ∧
    p.recoverOrUnknown v = (p.recover? v).getD .unknown ∧
    (p.recoverOrUnknown v = .unknown ↔ p.candidates v = []) ∧
    v.recover? = Policy.recover? ⟨true, 64⟩ v ∧ v.recover = Policy.recover ⟨true, 64⟩ v :=
  ⟨fun _ => p.recover?_eq_some_iff v,
    ⟨p.nodup_candidates v, p.candidates_sublist v, fun _ => p.mem_candidates_iff v⟩,
    p.recover?_eq_head? v, fun _ => p.recover_eq_ok_iff v, fun _ => p.recover_eq_error_iff v,
    rfl, p.recoverOrUnknown_eq_unknown_iff v, rfl, rfl⟩

end Policy
end OpcodeRecovery
