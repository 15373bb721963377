import OpcodeRecovery.Method.Declared
import OpcodeRecovery.Proofs.Exclusion
import OpcodeRecovery.Proofs.Priority

/-!
Families of opcodes that share a helper. Which member a handler implements is told by the truth
values passed to the helper, and each call site tells it for itself: it passes the flags of at most
one member, and the members matched are those whose flags some call site passes. Among several,
the order of the family decides and not that of the call sites.
-/
namespace OpcodeRecovery

structure FamilyMember where
  opcode : Opcode
  flags : List Bool
  deriving DecidableEq, Repr

structure Family where
  helper : Pattern
  members : List FamilyMember
  deriving DecidableEq, Repr

def additions : Family :=
  ⟨Generated.addHelper, [⟨.add, [false, false]⟩, ⟨.addOvf, [true, false]⟩, ⟨.addOvfUn, [true, true]⟩]⟩

def subtractions : Family :=
  ⟨Generated.subHelper, [⟨.sub, [false, false]⟩, ⟨.subOvf, [true, false]⟩, ⟨.subOvfUn, [true, true]⟩]⟩

def families : List Family := [
  additions,
  subtractions,
  ⟨Generated.divHelper, [⟨.div, [false]⟩, ⟨.divUn, [true]⟩]⟩,
  ⟨Generated.remHelper, [⟨.rem, [false]⟩, ⟨.remUn, [true]⟩]⟩,
  ⟨Generated.shrHelper, [⟨.shr, [true]⟩, ⟨.shrUn, [false]⟩]⟩]

def CallSite.Pushes (s : CallSite) (flags : List Bool) : Prop :=
  ∃ earlier arguments, s.before.reverse = earlier ++ arguments ∧
    arguments.map Instruction.truth? = flags.map some

theorem CallSite.Pushes.unique {s : CallSite} {flags flags' : List Bool}
    (pushes : s.Pushes flags) (pushes' : s.Pushes flags') (size : flags.length = flags'.length) :
    flags = flags' := by
  obtain ⟨earlier, arguments, split, read⟩ := pushes
  obtain ⟨earlier', arguments', split', read'⟩ := pushes'
  have lengths : arguments.length = arguments'.length := by
    have counted := congrArg List.length read
    have counted' := congrArg List.length read'
    simp only [List.length_map] at counted counted'
    omega
  have same : arguments = arguments' :=
    (List.append_inj' (split.symm.trans split') lengths).2
  rw [same, read'] at read
  exact ((List.map_inj_right fun _ _ => Option.some.inj).mp read).symm

namespace Family

def opcodes (f : Family) : List Opcode := f.members.map FamilyMember.opcode

def recognizer (f : Family) (m : FamilyMember) : Recognizer :=
  ⟨m.opcode, .discriminated f.helper m.flags, .certain⟩

/-- At the call site a method is called that holds the helper, with the flags of this opcode. -/
structure Contributes (f : Family) (v : VirtualInstruction) (s : CallSite) (c : Opcode) : Prop where
  holds : v.context.methods.Holds f.helper s.target
  pushes : ∃ flags, ⟨c, flags⟩ ∈ f.members ∧ s.Pushes flags

theorem helper_ne_nil : ∀ f ∈ families, f.helper ≠ [] := by decide

theorem recognizer_mem_catalog : ∀ f ∈ families, ∀ m ∈ f.members, f.recognizer m ∈ catalog := by
  decide

theorem flags_of_mem :
    ∀ f ∈ families, ∀ m ∈ f.members, ∀ n ∈ f.members,
      m.flags.length = n.flags.length ∧ (m.flags = n.flags → m.opcode = n.opcode) := by
  decide

theorem flags_of_two :
    ∀ f ∈ [additions, subtractions], ∀ m ∈ f.members,
      m.flags.length = [false, true].length ∧ m.flags ≠ [false, true] := by
  decide

theorem pairwise_priority :
    ∀ f ∈ families, f.members.Pairwise fun m n =>
      (f.recognizer m).priority < (f.recognizer n).priority := by
  decide

variable {f : Family} {v : VirtualInstruction}

theorem accepts_recognizer_iff (nonempty : f.helper ≠ []) {m : FamilyMember} :
    (f.recognizer m).accepts v = true ↔
      ∃ s ∈ v.body.callSites, s.Pushes m.flags ∧ v.context.methods.Holds f.helper s.target := by
  simp only [Recognizer.accepts, recognizer, Shape.accepts,
    VirtualInstruction.flaggedCallContains, List.any_eq_true, Bool.and_eq_true,
    CallSite.passes_iff, MethodSource.bodyContains_iff, nonempty, ne_eq, not_false_eq_true,
    true_and, CallSite.Pushes]

theorem accepts_recognizer_of_matches (listed : f ∈ families) {m : FamilyMember}
    (member : m ∈ f.members) (found : v.Matches m.opcode) :
    (f.recognizer m).accepts v = true := by
  obtain ⟨r, recognizer, named, accepted⟩ := found
  obtain rfl : r = f.recognizer m :=
    Recognizer.eq_of_opcode_eq recognizer (recognizer_mem_catalog f listed m member) named
  exact accepted

theorem matches_iff (listed : f ∈ families) {c : Opcode} (member : c ∈ f.opcodes) :
    v.Matches c ↔ ∃ s ∈ v.body.callSites, f.Contributes v s c := by
  have nonempty := helper_ne_nil f listed
  constructor
  · intro found
    obtain ⟨m, inside, rfl⟩ := List.mem_map.mp member
    have accepted := accepts_recognizer_of_matches listed inside found
    obtain ⟨s, site, pushes, holds⟩ := (accepts_recognizer_iff nonempty).mp accepted
    exact ⟨s, site, holds, m.flags, inside, pushes⟩
  · intro contributed
    obtain ⟨s, site, holds, flags, inside, pushes⟩ := contributed
    exact ⟨_, recognizer_mem_catalog f listed _ inside, rfl,
      (accepts_recognizer_iff nonempty).mpr ⟨s, site, pushes, holds⟩⟩

theorem Contributes.unique (listed : f ∈ families) {s : CallSite} {c d : Opcode}
    (first : f.Contributes v s c) (second : f.Contributes v s d) : c = d := by
  obtain ⟨_, flags, inside, pushes⟩ := first
  obtain ⟨_, flags', inside', pushes'⟩ := second
  obtain ⟨size, alike⟩ := flags_of_mem f listed _ inside _ inside'
  exact alike (pushes.unique pushes' size)

theorem not_contributes_of_two (listed : f ∈ [additions, subtractions]) {s : CallSite}
    (pushed : s.Pushes [false, true]) (c : Opcode) : ¬ f.Contributes v s c := by
  intro contributes
  obtain ⟨_, flags, inside, pushes⟩ := contributes
  obtain ⟨size, other⟩ := flags_of_two f listed _ inside
  exact other (pushes.unique pushed size)

theorem not_matches_of_earlier (listed : f ∈ families) {p : Policy} {m n : FamilyMember}
    (member : m ∈ f.members) (member' : n ∈ f.members)
    (earlier : (f.recognizer m).priority < (f.recognizer n).priority)
    (recovered : p.recover? v = some n.opcode) : ¬ v.Matches m.opcode := by
  intro found
  have accepted := accepts_recognizer_of_matches listed member found
  have consulted :=
    p.mem_recognizers_of_certain (recognizer_mem_catalog f listed m member) rfl
  have bound := p.priority_le_of_recover? v (recognizer_mem_catalog f listed n member') recovered
    consulted accepted
  omega

theorem first_of_recover? (listed : f ∈ families) {p : Policy} {c : Opcode}
    (member : c ∈ f.opcodes) (recovered : p.recover? v = some c) :
    ∃ earlier later, f.opcodes = earlier ++ c :: later ∧
      (∃ s ∈ v.body.callSites, f.Contributes v s c) ∧
      ∀ d ∈ earlier, ∀ s ∈ v.body.callSites, ¬ f.Contributes v s d := by
  have found : v.Matches c := by
    obtain ⟨_, r, first, named, _⟩ := (p.recover?_eq_some_iff v).mp recovered
    exact ⟨r, List.mem_of_getElem? first.position, named, first.accepted⟩
  have contributed := (matches_iff listed member).mp found
  obtain ⟨m, inside, rfl⟩ := List.mem_map.mp member
  obtain ⟨before, after, split⟩ := List.append_of_mem inside
  refine ⟨before.map FamilyMember.opcode, after.map FamilyMember.opcode, ?_, contributed, ?_⟩
  · rw [opcodes, split, List.map_append, List.map_cons]
  · intro d earlier s site contributes
    obtain ⟨n, member', rfl⟩ := List.mem_map.mp earlier
    have inside' : n ∈ f.members := by
      rw [split]
      exact List.mem_append_left _ member'
    -- The family lists its members in the order of the catalog.
    have order := pairwise_priority f listed
    rw [split, List.pairwise_append] at order
    have less := order.2.2 n member' m List.mem_cons_self
    exact not_matches_of_earlier listed inside' inside less recovered
      ((matches_iff listed (List.mem_map_of_mem inside')).mpr ⟨s, site, contributes⟩)

end Family

/-- A call site contributes at most one member of a family, and none if it says that operands are
    unsigned but overflow is ignored. The members that match are those contributed, so one call
    site of the helper leaves at most one; among several, the order of the family decides. -/
theorem matches_by_call_sites (v : VirtualInstruction) {f : Family} (listed : f ∈ families) :
    (∀ s c d, f.Contributes v s c → f.Contributes v s d → c = d) ∧
    (f ∈ [additions, subtractions] → ∀ s : CallSite, s.Pushes [false, true] →
      ∀ c, ¬ f.Contributes v s c) ∧
    (∀ c ∈ f.opcodes, v.Matches c ↔ ∃ s ∈ v.body.callSites, f.Contributes v s c) ∧
    ((∃! s, s ∈ v.body.callSites ∧ v.context.methods.Holds f.helper s.target) →
      ∀ c ∈ f.opcodes, ∀ d ∈ f.opcodes, v.Matches c → v.Matches d → c = d) ∧
    ∀ (p : Policy), ∀ c ∈ f.opcodes, p.recover? v = some c →
      ∃ earlier later, f.opcodes = earlier ++ c :: later ∧
        (∃ s ∈ v.body.callSites, f.Contributes v s c) ∧
        ∀ d ∈ earlier, ∀ s ∈ v.body.callSites, ¬ f.Contributes v s d := by
  refine ⟨fun _ _ _ first second => first.unique listed second,
    fun two _ => Family.not_contributes_of_two two, fun _ => Family.matches_iff listed, ?_,
    fun _ _ => Family.first_of_recover? listed⟩
  intro single c member d member' found found'
  obtain ⟨s, site, contributes⟩ := (Family.matches_iff listed member).mp found
  obtain ⟨s', site', contributes'⟩ := (Family.matches_iff listed member').mp found'
  obtain rfl : s = s' := single.unique ⟨site, contributes.holds⟩ ⟨site', contributes'.holds⟩
  exact contributes.unique listed contributes'

/-- Three additions, the second with flags of none and the third by a method that subtracts too. -/
def flaggedHandler : VirtualInstruction :=
  let addition : Instruction := ⟨.call, .methodRef (.methodDef 16)⟩
  let either : Instruction := ⟨.callvirt, .methodRef (.methodDef 17)⟩
  let declared : Declarations := [
    ⟨.methodDef 1, some [⟨.ldcI4_1, .absent⟩, ⟨.ldcI4_1, .absent⟩, addition,
      ⟨.ldcI4_0, .absent⟩, ⟨.ldcI4_1, .absent⟩, addition,
      ⟨.ldcI4S, .immediate (.int8 1)⟩, ⟨.ldcI4, .immediate (.int64 0)⟩, either], none, none⟩,
    ⟨.methodDef 16, some (Generated.addHelper.map fun c => ⟨c, .absent⟩), none, none⟩,
    ⟨.methodDef 17, some ((Generated.addHelper ++ Generated.subHelper).map fun c => ⟨c, .absent⟩),
      none, none⟩]
  ⟨⟨declared.source [], .field 1⟩, 4, .methodDef 1⟩

theorem matches_of_flaggedHandler :
    flaggedHandler.Matches .addOvfUn ∧ flaggedHandler.recover? = some .addOvf ∧
    (∀ s ∈ flaggedHandler.body.callSites, ¬ additions.Contributes flaggedHandler s .add) ∧
    (∃ s ∈ flaggedHandler.body.callSites, s.Pushes [false, true] ∧
      ∀ c, ¬ additions.Contributes flaggedHandler s c) ∧
    ∀ c ∈ subtractions.opcodes, flaggedHandler.Matches c → c = .subOvf := by
  have unsigned : flaggedHandler.Matches .addOvfUn := by decide
  have recovered : flaggedHandler.recover? = some .addOvf := by decide
  have subtraction : flaggedHandler.Matches .subOvf := by decide
  obtain ⟨_, none_of_two, _, _, first⟩ :=
    matches_by_call_sites flaggedHandler (f := additions) (by decide)
  obtain ⟨_, _, _, at_most_one, _⟩ :=
    matches_by_call_sites flaggedHandler (f := subtractions) (by decide)
  refine ⟨unsigned, recovered, ?_, ?_, ?_⟩
  · obtain ⟨earlier, later, split, _, missing⟩ := first .standard .addOvf (by decide) recovered
    cases earlier with
    | nil => cases split
    | cons d earlier =>
      obtain rfl : .add = d := (List.cons.inj split).1
      exact missing .add List.mem_cons_self
  · have passed : ∃ s ∈ flaggedHandler.body.callSites, s.passes [false, true] = true := by decide
    obtain ⟨s, site, passes⟩ := passed
    have pushes : s.Pushes [false, true] := CallSite.passes_iff.mp passes
    exact ⟨s, site, pushes, none_of_two (by decide) s pushes⟩
  · have single : ∃ s ∈ flaggedHandler.body.callSites,
        flaggedHandler.context.methods.bodyContains subtractions.helper s.target = true ∧
        ∀ s' ∈ flaggedHandler.body.callSites,
          flaggedHandler.context.methods.bodyContains subtractions.helper s'.target = true →
          s' = s := by decide
    obtain ⟨s, site, holds, others⟩ := single
    intro c member found
    refine at_most_one ⟨s, ⟨site, (MethodSource.bodyContains_iff.mp holds).2⟩, ?_⟩
      c member .subOvf (by decide) found subtraction
    intro s' there
    exact others s' there.1 (MethodSource.bodyContains_iff.mpr ⟨by decide, there.2⟩)

end OpcodeRecovery
