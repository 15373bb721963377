import OpcodeRecovery.Proofs.Positions

/-!
The comparisons of a body with a pattern as one algebra. Each says at which position the opcodes of
the pattern are read off the body: at the start, up to the end, both at once, or wherever they are
read first. They agree where they can, and part only over the empty pattern: it begins and ends
every body, and yet no search finds it.
-/
namespace OpcodeRecovery.Body
variable {b : Body} {p : Pattern}

theorem startsWith_iff_reads : b.startsWith p = true ↔ b.Reads p 0 := by
  rw [startsWith_iff, reads_iff_prefix, List.drop_zero]
  exact (and_iff_right (Nat.zero_le _)).symm

theorem endsWith_iff_reads :
    b.endsWith p = true ↔ ∃ start, start + p.length = b.length ∧ b.Reads p start := by
  rw [endsWith_iff]
  constructor
  · intro ends
    obtain ⟨before, same⟩ := ends
    have size := congrArg List.length same
    rw [List.length_append, length_opcodes] at size
    have behind : b.opcodes.drop before.length = p := by rw [← same, List.drop_left]
    have found : p <+: b.opcodes.drop before.length := by simp only [behind, List.prefix_rfl]
    exact ⟨before.length, size, reads_iff_prefix.mpr ⟨by omega, found⟩⟩
  · intro read
    obtain ⟨start, size, reads⟩ := read
    obtain ⟨_, found⟩ := reads_iff_prefix.mp reads
    have rest : (b.opcodes.drop start).length = p.length := by
      rw [List.length_drop, length_opcodes]
      omega
    rw [found.eq_of_length rest.symm]
    exact List.drop_suffix start b.opcodes

theorem isExactly_iff_startsWith :
    b.isExactly p = true ↔ b.startsWith p = true ∧ b.length = p.length := by
  rw [isExactly_iff, startsWith_iff, ← length_opcodes]
  constructor
  · intro same
    subst same
    exact ⟨List.prefix_rfl, rfl⟩
  · intro start
    exact (start.1.eq_of_length start.2.symm).symm

theorem endsWith_eq_startsWith_reverse :
    b.endsWith p = Body.startsWith b.reverse p.reverse := by
  rw [Bool.eq_iff_iff, endsWith_iff, startsWith_iff, opcodes, opcodes, List.map_reverse,
    List.reverse_prefix]

theorem isExactly_reverse : Body.isExactly b.reverse p.reverse = b.isExactly p := by
  rw [Bool.eq_iff_iff, isExactly_iff, isExactly_iff, opcodes, List.map_reverse,
    List.reverse_inj, opcodes]

theorem isExactly_iff_endsWith :
    b.isExactly p = true ↔ b.endsWith p = true ∧ b.length = p.length := by
  -- The end is the start seen backwards.
  rw [← isExactly_reverse, isExactly_iff_startsWith, ← endsWith_eq_startsWith_reverse,
    List.length_reverse, List.length_reverse]

theorem startsWith_append_iff {q : Pattern} :
    b.startsWith (p ++ q) = true ↔
      b.startsWith p = true ∧ Body.startsWith (b.drop p.length) q = true := by
  simp only [startsWith_iff, opcodes, List.map_drop]
  constructor
  · intro start
    obtain ⟨rest, same⟩ := start
    rw [List.append_assoc] at same
    rw [← same, List.drop_left]
    exact ⟨List.prefix_append p _, List.prefix_append q rest⟩
  · intro start
    obtain ⟨⟨rest, same⟩, behind⟩ := start
    rw [← same, List.drop_left] at behind
    rw [← same]
    exact (List.prefix_append_right_inj p).mpr behind

theorem isExactly_append {a : Body} {q : Pattern} (size : a.length = p.length) :
    Body.isExactly (a ++ b) (p ++ q) = (a.isExactly p && b.isExactly q) := by
  rw [Bool.eq_iff_iff, Bool.and_eq_true, isExactly_iff, isExactly_iff, isExactly_iff,
    opcodes_append]
  constructor
  · intro same
    exact List.append_inj same (by rw [length_opcodes, size])
  · intro same
    rw [same.1, same.2]

theorem startsWith_iff_find? (nonempty : p ≠ []) :
    b.startsWith p = true ↔ ∃ w, b.find? p = some w ∧ w.start = 0 := by
  rw [startsWith_iff_reads]
  constructor
  · intro reads
    refine ⟨⟨0, b.extract 0 (0 + p.length)⟩, find?_eq_some_iff_reads.mpr ?_, rfl⟩
    exact ⟨nonempty, reads, fun earlier small => absurd small (Nat.not_lt_zero earlier), rfl⟩
  · intro found
    obtain ⟨w, here, start⟩ := found
    obtain ⟨_, reads, _⟩ := find?_eq_some_iff_reads.mp here
    rw [start] at reads
    exact reads

theorem exists_find?_of_reads (nonempty : p ≠ []) {start : Nat} (reads : b.Reads p start) :
    ∃ w, b.find? p = some w ∧ w.start ≤ start := by
  cases found : b.find? p with
  | none =>
    rcases find?_eq_none_iff.mp found with empty | unread
    · exact absurd empty nonempty
    · exact absurd reads (unread start)
  | some w =>
    obtain ⟨_, _, least, _⟩ := find?_eq_some_iff_reads.mp found
    refine ⟨w, rfl, ?_⟩
    by_contra later
    exact least start (by omega) reads

theorem exists_find?_of_endsWith (nonempty : p ≠ []) (ends : b.endsWith p = true) :
    ∃ w, b.find? p = some w ∧ w.start + p.length ≤ b.length := by
  obtain ⟨start, size, reads⟩ := endsWith_iff_reads.mp ends
  obtain ⟨w, found, earlier⟩ := exists_find?_of_reads nonempty reads
  exact ⟨w, found, by omega⟩

/-- A pattern is the whole of a body that begins with it, or ends with it, and is no longer. The end
    is the start seen backwards, and a pattern in two parts is read part by part. What begins a body
    is found at its start, and what ends it is found, perhaps further left. The empty pattern begins
    and ends every body, is the whole of the empty one, and is never found. -/
theorem comparisons_agree (b : Body) (p : Pattern) :
    (b.isExactly p = true ↔ b.startsWith p = true ∧ b.length = p.length) ∧
    (b.isExactly p = true ↔ b.endsWith p = true ∧ b.length = p.length) ∧
    b.endsWith p = Body.startsWith b.reverse p.reverse ∧
    (∀ q, b.startsWith (p ++ q) = true ↔
      b.startsWith p = true ∧ Body.startsWith (b.drop p.length) q = true) ∧
    (∀ (rest : Body) (q : Pattern), b.length = p.length →
      Body.isExactly (b ++ rest) (p ++ q) = (b.isExactly p && rest.isExactly q)) ∧
    (p ≠ [] → (b.startsWith p = true ↔ ∃ w, b.find? p = some w ∧ w.start = 0)) ∧
    (p ≠ [] → b.endsWith p = true → ∃ w, b.find? p = some w ∧ w.start + p.length ≤ b.length) ∧
    b.startsWith [] = true ∧ b.endsWith [] = true ∧ (b.isExactly [] = true ↔ b = []) ∧
    b.find? [] = none := by
  refine ⟨isExactly_iff_startsWith, isExactly_iff_endsWith, endsWith_eq_startsWith_reverse,
    fun _ => startsWith_append_iff, fun _ _ size => isExactly_append size, startsWith_iff_find?,
    exists_find?_of_endsWith, ?_, ?_, ?_, rfl⟩
  · exact (b.startsWith_iff []).mpr List.nil_prefix
  · exact (b.endsWith_iff []).mpr List.nil_suffix
  · rw [isExactly_iff, opcodes, List.map_eq_nil_iff]

theorem comparisons_agree_on_repeatedLoads :
    let pair : Pattern := [.ldlocS, .ldlocS]
    let loads : Body := repeatedLoads.take 3
    pair ≠ [] ∧ loads.startsWith pair = true ∧ (∃ w, loads.find? pair = some w ∧ w.start = 0) ∧
    loads.endsWith pair = true ∧ (∃ w, loads.find? pair = some w ∧ w.start + 2 ≤ 3) ∧
    (repeatedLoads.take 2).length = pair.length ∧
    Body.isExactly (repeatedLoads.take 2 ++ repeatedLoads.drop 2) (pair ++ [.ldlocS, .add]) =
      true := by
  intro pair loads
  obtain ⟨_, _, _, _, _, begins, ends, _⟩ := comparisons_agree loads pair
  obtain ⟨_, _, _, _, joins, _⟩ := comparisons_agree (repeatedLoads.take 2) pair
  have nonempty : pair ≠ [] := by decide
  have start : loads.startsWith pair = true := by decide
  have stop : loads.endsWith pair = true := by decide
  have size : (repeatedLoads.take 2).length = pair.length := by decide
  refine ⟨nonempty, start, (begins nonempty).mp start, stop, ends nonempty stop, size, ?_⟩
  rw [joins (repeatedLoads.drop 2) [.ldlocS, .add] size]
  decide

end OpcodeRecovery.Body
