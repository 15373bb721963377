import OpcodeRecovery.Proofs.Exclusion

/-!
How ambiguous a handler can be whose whole body is known. The opcodes of a body alone rule most
shapes out: what is left for a load of an argument or a constant are the shapes that look only at
callees, and those whose truth value is the very constant that is loaded.
-/
namespace OpcodeRecovery

/-- Whether an instruction of this opcode can push the truth value. The long forms push what their
    operand says. -/
def Opcode.mayPush (b : Bool) (c : Opcode) : Bool :=
  c == .ldcI4S || c == .ldcI4 || c.shortLiteral? == some (if b then 1 else 0)

namespace Pattern

def mayPassFirst : List Bool → Pattern → Bool
  | [], c :: _ => c.isCall
  | b :: flags, c :: cs => c.mayPush b && mayPassFirst flags cs
  | _, [] => false

def mayPass (flags : List Bool) : Pattern → Bool
  | [] => false
  | c :: cs => mayPassFirst flags (c :: cs) || mayPass flags cs

end Pattern

/-- Whether a body of these opcodes leaves room for the shape. Operands are not looked at, and
    callees may hold anything. -/
def Shape.fits (cs : Pattern) : Shape → Bool
  | .indirect _ => true
  | .discriminated _ flags => cs.mayPass flags
  | .argumentStore _ =>
    (Generated.argumentStore.offset? cs).isSome && Generated.argumentStoreTail.isSuffixOf cs
  | .argumentAddressLoad _ => (Generated.argumentAddressLoad.offset? cs).isSome
  | .argumentLoad _ => cs == Generated.argumentLoad
  | .constantLoad constant => cs == Generated.constantLoad.fill constant
  | s => s.start.isPrefixOf cs

theorem Instruction.mayPush_of_truth? {i : Instruction} {b : Bool} (pushed : i.truth? = some b) :
    i.opcode.mayPush b = true := by
  have read := Instruction.truth?_eq_some_iff.mp pushed
  by_cases short : i.opcode = .ldcI4S
  · simp [Opcode.mayPush, short]
  · by_cases full : i.opcode = .ldcI4
    · simp [Opcode.mayPush, full]
    · rw [Instruction.literal?_of_ne short full] at read
      simp [Opcode.mayPush, read]

namespace Pattern

theorem mayPassFirst_of_truth? {flags : List Bool} {arguments after : Body} {call : Instruction}
    (read : arguments.map Instruction.truth? = flags.map some) (called : call.isCall = true) :
    mayPassFirst flags (Body.opcodes (arguments ++ call :: after)) = true := by
  induction flags generalizing arguments with
  | nil =>
    obtain rfl : arguments = [] := by simpa using read
    exact called
  | cons b flags ih =>
    cases arguments with
    | nil => simp at read
    | cons i arguments =>
      obtain ⟨pushed, rest⟩ := List.cons.inj read
      have first := Instruction.mayPush_of_truth? pushed
      simp only [List.cons_append, Body.opcodes_cons, mayPassFirst, first, ih rest, Bool.and_self]

theorem mayPass_append {flags : List Bool} {before cs : Pattern}
    (found : mayPassFirst flags cs = true) : mayPass flags (before ++ cs) = true := by
  induction before with
  | nil =>
    cases cs with
    | nil => cases flags <;> simp [mayPassFirst] at found
    | cons c cs => rw [List.nil_append, mayPass, found, Bool.true_or]
  | cons c before ih => rw [List.cons_append, mayPass, ih, Bool.or_true]

theorem mayPass_of_passesTo {b : Body} {flags : List Bool} {t : Token}
    (passes : b.PassesTo flags t) : mayPass flags b.opcodes = true := by
  obtain ⟨before, arguments, call, after, rfl, target, read⟩ := passes
  have called := Instruction.isCall_of_callTarget? target
  rw [List.append_assoc, List.append_assoc, Body.opcodes_append]
  exact mayPass_append (mayPassFirst_of_truth? read called)

end Pattern

theorem Body.isSome_offset?_of_any_find? {b : Body} {p : Pattern} {test : Window → Bool}
    (found : (b.find? p).any test = true) : (p.offset? b.opcodes).isSome = true := by
  cases located : p.offset? b.opcodes with
  | none => simp [find?, located] at found
  | some n => rfl

theorem Shape.fits_of_accepts {s : Shape} {v : VirtualInstruction} (accepted : s.accepts v = true) :
    s.fits v.body.opcodes = true := by
  have start := List.isPrefixOf_iff_prefix.mpr (begins_of_accepts accepted)
  cases s with
  | indirect helper => rfl
  | discriminated helper flags =>
    obtain ⟨_, _, passes, _⟩ := VirtualInstruction.flaggedCallContains_iff.mp accepted
    exact Pattern.mayPass_of_passesTo passes
  | argumentStore width =>
    simp only [accepts, Bool.and_eq_true] at accepted
    simp only [fits, Bool.and_eq_true]
    exact ⟨Body.isSome_offset?_of_any_find? accepted.1, accepted.2⟩
  | argumentAddressLoad width => exact Body.isSome_offset?_of_any_find? accepted
  | argumentLoad width =>
    simp only [accepts, Bool.and_eq_true] at accepted
    exact accepted.1.1
  | constantLoad constant => exact accepted
  | _ => exact start

def Shape.whole? : Shape → Option Pattern
  | .argumentLoad _ => some Generated.argumentLoad
  | .constantLoad constant => some (Generated.constantLoad.fill constant)
  | _ => none

theorem Shape.opcodes_of_whole? {s : Shape} {v : VirtualInstruction} {p : Pattern}
    (accepted : s.accepts v = true) (whole : s.whole? = some p) : v.body.opcodes = p := by
  have fits := fits_of_accepts accepted
  cases s with
  | argumentLoad width => exact (beq_iff_eq.mp fits).trans (Option.some.inj whole)
  | constantLoad constant => exact (beq_iff_eq.mp fits).trans (Option.some.inj whole)
  | _ => cases whole

def Shape.isDiscriminated : Shape → Bool
  | .discriminated _ _ => true
  | _ => false

def constantOpcodes : List Opcode :=
  [.ldcI4_0, .ldcI4_1, .ldcI4_2, .ldcI4_3, .ldcI4_4, .ldcI4_5, .ldcI4_6, .ldcI4_7, .ldcI4_8,
   .ldcI4M1]

def wholeBodyOpcodes : List Opcode := [.ldarg, .ldargS] ++ constantOpcodes

/-- What else a handler may match that matches one of these opcodes. The constants zero and one
    stand directly before a call and can be truth values. -/
def companions : Opcode → List Opcode
  | .ldcI4_0 => [.and, .or, .xor, .shl, .div, .rem, .shrUn]
  | .ldcI4_1 => [.and, .or, .xor, .shl, .divUn, .remUn, .shr]
  | _ => [.and, .or, .xor, .shl]

def strangers : List Opcode :=
  [.add, .addOvf, .addOvfUn, .sub, .subOvf, .subOvfUn, .bge, .blt, .cgt, .clt, .convR8,
   .ldarg, .ldargS, .ldarga, .ldargaS, .ldarg0, .ldarg1, .ldarg2, .ldarg3, .starg, .stargS]

theorem isSome_whole?_of_mem :
    ∀ c ∈ wholeBodyOpcodes, ∀ r ∈ catalog, r.opcode = c → r.shape.whole?.isSome = true := by
  decide

theorem opcode_of_fits_whole? :
    ∀ r ∈ catalog, ∀ p ∈ r.shape.whole?, ∀ q ∈ catalog, q.shape.fits p = true →
      q.opcode = r.opcode ∨ q.opcode ∈ companions r.opcode ∨
        (r.opcode, q.opcode) ∈ widthPairs ∨ (q.opcode, r.opcode) ∈ widthPairs := by
  decide

theorem eq_or_mem_companions {v : VirtualInstruction} {c d : Opcode} (whole : c ∈ wholeBodyOpcodes)
    (found : v.Matches c) (found' : v.Matches d) : d = c ∨ d ∈ companions c := by
  have ⟨r, recognizer, named, accepted⟩ := found
  have ⟨q, recognizer', named', accepted'⟩ := found'
  subst named named'
  obtain ⟨p, told⟩ := Option.isSome_iff_exists.mp (isSome_whole?_of_mem _ whole r recognizer rfl)
  have fits : q.shape.fits p = true := by
    rw [← Shape.opcodes_of_whole? accepted told]
    exact Shape.fits_of_accepts accepted'
  -- The opcodes of a body do not tell the width of an index; its accessor's return type does.
  rcases opcode_of_fits_whole? r recognizer p told q recognizer' fits with
    same | companion | pair | pair
  · exact Or.inl same
  · exact Or.inr companion
  · exact absurd ⟨found, found'⟩ (not_matches_both pair)
  · exact absurd ⟨found', found⟩ (not_matches_both pair)

theorem not_mem_companions_of_mem_strangers :
    ∀ c ∈ constantOpcodes, ∀ d ∈ strangers, ¬ (d = c ∨ d ∈ companions c) := by
  decide

theorem isDiscriminated_of_mem_companions :
    ∀ c ∈ constantOpcodes, c ∉ [.ldcI4_0, .ldcI4_1] → ∀ r ∈ catalog,
      r.opcode = c ∨ r.opcode ∈ companions c → r.shape.isDiscriminated = false := by
  decide

/-- A handler with the whole body of the opcode, in which every call is of one method that holds
    all helpers. -/
def crowdedHandler (c : Opcode) : VirtualInstruction :=
  let operand : Opcode → Operand
    | .ldfld => .fieldRef (.field 1)
    | .call | .callvirt => .methodRef (.methodDef 16)
    | _ => .absent
  let opcodes := (Recognizer.of? c).bind fun r => r.shape.whole?
  let helpers := Generated.andHelper ++ Generated.orHelper ++ Generated.xorHelper ++
    Generated.shlHelper ++ Generated.divHelper ++ Generated.remHelper ++ Generated.shrHelper
  let returnType := if c = .ldarg then "System.UInt16" else "System.Byte"
  let declared : Declarations := [
    ⟨.methodDef 1, some ((opcodes.getD []).map fun o => ⟨o, operand o⟩), none, none⟩,
    ⟨.methodDef 16, some (helpers.map fun o => ⟨o, .absent⟩), some returnType, none⟩]
  ⟨⟨declared.source [], .field 1⟩, 8, .methodDef 1⟩

theorem crowdedHandler_matches :
    ∀ c ∈ wholeBodyOpcodes, ∀ d ∈ c :: companions c, (crowdedHandler c).Matches d := by
  decide

/-- A handler that loads an argument or a constant matches nothing else but its companions, and
    there are handlers that match all of them. -/
theorem matches_of_wholeBody :
    (∀ (v : VirtualInstruction), ∀ c ∈ wholeBodyOpcodes, v.Matches c →
      ∀ d, v.Matches d → d = c ∨ d ∈ companions c) ∧
    (∀ (v : VirtualInstruction), ∀ c ∈ constantOpcodes, v.Matches c →
      (∀ d ∈ strangers, ¬ v.Matches d) ∧
      (c ∉ [.ldcI4_0, .ldcI4_1] → ∀ r ∈ catalog, r.shape.isDiscriminated = true →
        r.accepts v = false)) ∧
    ∀ c ∈ wholeBodyOpcodes, ∃ v : VirtualInstruction, ∀ d ∈ c :: companions c, v.Matches d := by
  refine ⟨?_, ?_, ?_⟩
  · intro v c whole found d found'
    exact eq_or_mem_companions whole found found'
  · intro v c constant found
    have whole : c ∈ wholeBodyOpcodes := List.mem_append_right _ constant
    constructor
    · intro d stranger found'
      exact not_mem_companions_of_mem_strangers c constant d stranger
        (eq_or_mem_companions whole found found')
    · intro neither r recognizer discriminated
      by_contra accepted
      have found' : v.Matches r.opcode := ⟨r, recognizer, rfl, by simpa using accepted⟩
      have other := isDiscriminated_of_mem_companions c constant neither r recognizer
        (eq_or_mem_companions whole found found')
      exact absurd (discriminated.symm.trans other) (by decide)
  · exact fun c whole => ⟨crowdedHandler c, crowdedHandler_matches c whole⟩

theorem matches_of_crowded_constant :
    (crowdedHandler .ldcI4_1).Matches .ldcI4_1 ∧ ¬ (crowdedHandler .ldcI4_1).Matches .sub ∧
    ∀ d, (crowdedHandler .ldcI4_1).Matches d →
      d ∈ [.ldcI4_1, .and, .or, .xor, .shl, .divUn, .remUn, .shr] := by
  have found : (crowdedHandler .ldcI4_1).Matches .ldcI4_1 := by decide
  obtain ⟨bound, constants, _⟩ := matches_of_wholeBody
  refine ⟨found, (constants _ .ldcI4_1 (by decide) found).1 .sub (by decide), ?_⟩
  intro d other
  rcases bound _ .ldcI4_1 (by decide) found d other with same | companion
  · rw [same]
    exact List.mem_cons_self
  · exact List.mem_cons_of_mem _ companion

end OpcodeRecovery
