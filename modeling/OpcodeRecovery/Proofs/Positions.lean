import OpcodeRecovery.Proofs.Search

/-!
Windows of a pattern, said by their positions. The search answers with the least position at which
the opcodes of the pattern are read off the body, and hands out the instructions that stand there,
operands and all. It finds nothing only where there is no such position, or nothing to look for.
-/
namespace OpcodeRecovery

/-- The opcodes of the pattern are read off the body from this position on. -/
structure Body.Reads (b : Body) (p : Pattern) (start : Nat) : Prop where
  bound : start + p.length ≤ b.length
  opcodes : Body.opcodes (b.extract start (start + p.length)) = p

namespace Body
variable {b : Body} {p : Pattern}

theorem opcodes_extract (b : Body) (start stop : Nat) :
    Body.opcodes (b.extract start stop) = b.opcodes.extract start stop := by
  simp only [opcodes, List.extract_eq_take_drop, List.map_take, List.map_drop]

theorem reads_iff_prefix {start : Nat} :
    b.Reads p start ↔ start ≤ b.length ∧ p <+: b.opcodes.drop start := by
  have cut : b.opcodes.extract start (start + p.length) = (b.opcodes.drop start).take p.length := by
    rw [List.extract_eq_take_drop, Nat.add_sub_cancel_left]
  constructor
  · intro reads
    obtain ⟨bound, same⟩ := reads
    rw [opcodes_extract, cut] at same
    exact ⟨by omega, List.prefix_iff_eq_take.mpr same.symm⟩
  · intro here
    obtain ⟨bound, found⟩ := here
    have inside := found.length_le
    rw [List.length_drop, length_opcodes] at inside
    refine ⟨by omega, ?_⟩
    rw [opcodes_extract, cut]
    exact (List.prefix_iff_eq_take.mp found).symm

theorem offset?_opcodes_eq_some_iff {start : Nat} :
    p.offset? b.opcodes = some start ↔
      b.Reads p start ∧ ∀ earlier < start, ¬ b.Reads p earlier := by
  simp only [Pattern.offset?_eq_some_iff, reads_iff_prefix, length_opcodes, and_assoc]
  refine and_congr_right fun bound => and_congr_right fun _ => ?_
  constructor
  · intro least earlier smaller reads
    exact least earlier smaller reads.2
  · intro least earlier smaller found
    exact least earlier smaller ⟨by omega, found⟩

theorem find?_eq_some_iff_reads {w : Window} :
    b.find? p = some w ↔
      p ≠ [] ∧ b.Reads p w.start ∧ (∀ earlier < w.start, ¬ b.Reads p earlier) ∧
        w.instructions = b.extract w.start (w.start + p.length) := by
  by_cases empty : p = []
  · simp [find?, empty]
  have nonempty : p.isEmpty = false := by simp [empty]
  simp only [find?, nonempty, Bool.false_eq_true, ↓reduceIte, Option.map_eq_some_iff,
    offset?_opcodes_eq_some_iff, List.extract_eq_take_drop, Nat.add_sub_cancel_left, ne_eq, empty,
    not_false_eq_true, true_and]
  constructor
  · intro located
    obtain ⟨start, ⟨reads, least⟩, rfl⟩ := located
    exact ⟨reads, least, rfl⟩
  · intro taken
    obtain ⟨reads, least, cut⟩ := taken
    exact ⟨w.start, ⟨reads, least⟩, by rw [← cut]⟩

theorem find?_eq_none_iff : b.find? p = none ↔ p = [] ∨ ∀ start, ¬ b.Reads p start := by
  constructor
  · intro missing
    by_cases empty : p = []
    · exact Or.inl empty
    refine Or.inr fun start reads => ?_
    obtain ⟨bound, found⟩ := reads_iff_prefix.mp reads
    have inside : start ≤ b.opcodes.length := by rw [length_opcodes]; exact bound
    obtain ⟨k, located⟩ := Pattern.exists_offset?_of_prefix_drop inside found
    simp [find?, empty, located] at missing
  · intro nowhere
    by_contra found
    obtain ⟨w, here⟩ := Option.ne_none_iff_exists'.mp found
    obtain ⟨nonempty, reads, _, _⟩ := find?_eq_some_iff_reads.mp here
    rcases nowhere with empty | unread
    · exact nonempty empty
    · exact unread w.start reads

theorem length_of_find? {w : Window} (found : b.find? p = some w) : w.length = p.length := by
  obtain ⟨_, reads, _, cut⟩ := find?_eq_some_iff_reads.mp found
  rw [Window.length, cut, ← length_opcodes, reads.opcodes]

theorem get?_of_find? {w : Window} (found : b.find? p = some w) {k : Nat} (inside : k < p.length) :
    ∃ i, b[w.start + k]? = some i ∧ w.get? k = some i := by
  obtain ⟨_, reads, _, cut⟩ := find?_eq_some_iff_reads.mp found
  have bound := reads.bound
  have position : w.start + k < b.length := by omega
  refine ⟨b[w.start + k], List.getElem?_eq_getElem position, ?_⟩
  rw [Window.get?, cut, List.extract_eq_take_drop, Nat.add_sub_cancel_left,
    List.getElem?_take_of_lt inside, List.getElem?_drop, List.getElem?_eq_getElem position]

/-- The search finds nothing only if the pattern is empty or is nowhere read off the body, else the
    window at the least position where it is. A window has as many instructions as the pattern has
    opcodes, at least one, and numbers them from its start. -/
theorem leftmost_window (b : Body) (p : Pattern) :
    (b.find? p = none ↔ p = [] ∨ ∀ start, ¬ b.Reads p start) ∧
    (∀ w, b.find? p = some w ↔
      p ≠ [] ∧ b.Reads p w.start ∧ (∀ earlier < w.start, ¬ b.Reads p earlier) ∧
        w.instructions = b.extract w.start (w.start + p.length)) ∧
    ∀ w, b.find? p = some w →
      w.length = p.length ∧ 0 < p.length ∧ w.isEmpty = false ∧
      (∀ k < p.length, ∃ i, b[w.start + k]? = some i ∧ w.get? k = some i) ∧
      ∀ k, p.length ≤ k → w.get? k = none := by
  refine ⟨find?_eq_none_iff, fun _ => find?_eq_some_iff_reads, ?_⟩
  intro w found
  obtain ⟨nonempty, _⟩ := find?_eq_some_iff_reads.mp found
  have size := length_of_find? found
  have positive : 0 < p.length := List.length_pos_of_ne_nil nonempty
  refine ⟨size, positive, ?_, fun k inside => get?_of_find? found inside, ?_⟩
  · rw [Window.isEmpty, List.isEmpty_eq_false_iff]
    exact List.ne_nil_of_length_pos (by rw [← Window.length, size]; exact positive)
  · intro k beyond
    rw [Window.get?, List.getElem?_eq_none_iff, ← Window.length, size]
    exact beyond

def repeatedLoads : Body :=
  [⟨.ldlocS, .localVar 1⟩, ⟨.ldlocS, .localVar 2⟩, ⟨.ldlocS, .localVar 3⟩, ⟨.add, .absent⟩]

theorem leftmost_window_of_repeatedLoads :
    ∃ w, repeatedLoads.find? [.ldlocS, .ldlocS, .add] = some w ∧ w.start = 1 ∧ w.length = 3 ∧
      w.get? 0 = some ⟨.ldlocS, .localVar 2⟩ ∧ w.get? 3 = none := by
  have found : repeatedLoads.find? [.ldlocS, .ldlocS, .add] =
      some ⟨1, [⟨.ldlocS, .localVar 2⟩, ⟨.ldlocS, .localVar 3⟩, ⟨.add, .absent⟩]⟩ := by decide
  obtain ⟨_, _, handed⟩ := leftmost_window repeatedLoads [.ldlocS, .ldlocS, .add]
  obtain ⟨length, _, _, inside, beyond⟩ := handed _ found
  obtain ⟨i, here, first⟩ := inside 0 (by decide)
  obtain rfl : ⟨.ldlocS, .localVar 2⟩ = i := Option.some.inj here
  exact ⟨_, found, rfl, length, first, beyond 3 (by decide)⟩

end Body
end OpcodeRecovery
