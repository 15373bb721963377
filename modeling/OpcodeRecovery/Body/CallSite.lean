import OpcodeRecovery.Body

/-!
Call sites: the calls of a body, each with the instructions before it. The arguments of a call are
pushed directly before it, so truth values passed to a method can be read there.
-/
namespace OpcodeRecovery

/-- A call of `target`; `before` holds the preceding instructions, the nearest first. -/
structure CallSite where
  before : List Instruction
  target : Token
  deriving DecidableEq, Repr

def CallSite.passes (s : CallSite) (flags : List Bool) : Bool :=
  (s.before.take flags.length).map Instruction.truth? == flags.reverse.map some

namespace Body

def callSitesAfter (before : List Instruction) : Body → List CallSite
  | [] => []
  | i :: b =>
    match i.callTarget? with
    | some target => ⟨before, target⟩ :: callSitesAfter (i :: before) b
    | none => callSitesAfter (i :: before) b

def callSites (b : Body) : List CallSite := callSitesAfter [] b

theorem targets_callSitesAfter (before : List Instruction) (b : Body) :
    (callSitesAfter before b).map CallSite.target = b.callTargets := by
  induction b generalizing before with
  | nil => rfl
  | cons i b ih =>
    have tail := ih (i :: before)
    simp only [callTargets] at tail
    cases called : i.callTarget? <;> simp [callSitesAfter, callTargets, called, tail]

end Body
end OpcodeRecovery
