import OpcodeRecovery.Catalog
import OpcodeRecovery.Journal

/-!
Policies: which recognizers are consulted, and from which size on a batch is worth spreading over
threads. Under a policy, the opcode recovered for a virtual instruction is that of the first
recognizer consulted that accepts its handler. Every attempt at that is noted, however it ends.
-/
namespace OpcodeRecovery

structure Policy where
  includeUncertain : Bool := true
  parallelThreshold : UInt64 := 64
  deriving DecidableEq, Repr

namespace Policy

def standard : Policy := {}

def strict : Policy := { includeUncertain := false }

def withUncertain (p : Policy) (included : Bool) : Policy := { p with includeUncertain := included }

def withParallelThreshold (p : Policy) (threshold : UInt64) : Policy :=
  { p with parallelThreshold := threshold }

def dump (p : Policy) : String :=
  Structured.record "IdentifierConfig"
    [("include_uncertain", Structured.truth p.includeUncertain),
     ("parallel_threshold", toString p.parallelThreshold.toNat)]

def consults (p : Policy) (r : Recognizer) : Bool :=
  p.includeUncertain || r.confidence == .certain

def recognizers (p : Policy) : List Recognizer := catalog.filter p.consults

def candidates (p : Policy) (v : VirtualInstruction) : List Opcode :=
  (p.recognizers.filter fun r => r.accepts v).map Recognizer.opcode

def attempt (p : Policy) (v : VirtualInstruction) : Noted (Option Opcode) := do
  let found := (p.recognizers.find? fun r => r.accepts v).map Recognizer.opcode
  (Event.verdict v found).note
  return found

def recover? (p : Policy) (v : VirtualInstruction) : Option Opcode := (p.attempt v).result

theorem recover?_eq_find? (p : Policy) (v : VirtualInstruction) :
    p.recover? v = (p.recognizers.find? fun r => r.accepts v).map Recognizer.opcode := rfl

def event (p : Policy) (v : VirtualInstruction) : Event := .verdict v (p.recover? v)

theorem attempt_eq (p : Policy) (v : VirtualInstruction) :
    p.attempt v = ⟨p.recover? v, [p.event v]⟩ := rfl

def recover (p : Policy) (v : VirtualInstruction) : Except RecoveryError Opcode :=
  match p.recover? v with
  | some c => .ok c
  | none => .error (.unidentified v)

def recoverOrUnknown (p : Policy) (v : VirtualInstruction) : Opcode := (p.recover? v).getD .unknown

end Policy

namespace VirtualInstruction

def recover? (v : VirtualInstruction) : Option Opcode := Policy.standard.recover? v

def recover (v : VirtualInstruction) : Except RecoveryError Opcode := Policy.standard.recover v

end VirtualInstruction
end OpcodeRecovery
