import OpcodeRecovery.Policy
import Std.Data.TreeMap

/-!
Batches of virtual instructions and the reports on them. A report keeps the order of its batch,
and it is the same whether the batch was spread over threads or not.
-/
namespace OpcodeRecovery

structure Report where
  identified : List (VirtualInstruction × Opcode)
  unresolved : List VirtualInstruction

namespace Policy

def verdicts (p : Policy) (pool : Pool) (batch : List VirtualInstruction) :
    Noted (List (Option Opcode)) :=
  if p.parallelThreshold.toNat ≤ batch.length then pool.mapM p.attempt batch
  else batch.mapM p.attempt

theorem result_verdicts (p : Policy) (pool : Pool) (batch : List VirtualInstruction) :
    (p.verdicts pool batch).result = batch.map p.recover? := by
  unfold verdicts
  split
  · rw [Pool.mapM_eq]
    rfl
  · rw [Noted.mapM_eq]
    rfl

end Policy

namespace Report

def identifiedOf : List (VirtualInstruction × Option Opcode) → List (VirtualInstruction × Opcode) :=
  List.filterMap fun (v, verdict) => verdict.map fun c => (v, c)

def unresolvedOf : List (VirtualInstruction × Option Opcode) → List VirtualInstruction :=
  List.filterMap fun (v, verdict) => if verdict.isNone then some v else none

def ofVerdicts (judged : List (VirtualInstruction × Option Opcode)) : Report :=
  ⟨identifiedOf judged, unresolvedOf judged⟩

def isComplete (r : Report) : Bool := r.unresolved.isEmpty

def size (r : Report) : Nat := r.identified.length + r.unresolved.length

def isEmpty (r : Report) : Bool := r.size == 0

def warn (r : Report) (total : Nat) : Noted Unit :=
  if r.isComplete then return ()
  else (Event.leftUnresolved r.unresolved.length total).note

/-- The opcode of each virtual code; of several for one virtual code, the last. -/
def opcodeMap (r : Report) : Std.TreeMap Int32 Opcode :=
  r.identified.foldl (fun m (v, c) => m.insert v.virtualCode c) ∅

def summary (r : Report) : String :=
  if r.isEmpty then "No virtual instructions"
  else "Identified " ++ toString r.identified.length ++ " of " ++ toString r.size ++
    " virtual instructions, " ++ toString r.unresolved.length ++ " unresolved"

def dump (r : Report) : String :=
  Structured.record "IdentificationReport"
    [("identified", toString r.identified.length), ("unresolved", toString r.unresolved.length)]

end Report

namespace Policy

def report (p : Policy) (pool : Pool) (batch : List VirtualInstruction) : Noted Report := do
  let verdicts ← p.verdicts pool batch
  let report := Report.ofVerdicts (batch.zip verdicts)
  report.warn batch.length
  return report

def recoverAll (p : Policy) (batch : List VirtualInstruction) : Report :=
  (p.report .single batch).result

def events (p : Policy) (batch : List VirtualInstruction) (pool : Pool := .single) : List Event :=
  (p.report pool batch).events

end Policy
end OpcodeRecovery
