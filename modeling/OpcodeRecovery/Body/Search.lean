import OpcodeRecovery.Body
import OpcodeRecovery.Pattern

/-!
Comparison of bodies with patterns. Only opcodes are compared, never operands. A pattern may be the
beginning of a body, all of it or its end, or it may be found as a window: the window found is the
leftmost, and the empty pattern has none.
-/
namespace OpcodeRecovery

structure Window where
  start : Nat
  instructions : Body
  deriving DecidableEq, Repr

structure OutOfRange where
  length : Nat
  index : Nat
  deriving DecidableEq, Repr

def OutOfRange.message (e : OutOfRange) : String :=
  "index out of bounds: the len is " ++ toString e.length ++ " but the index is " ++
    toString e.index

namespace Window

def length (w : Window) : Nat := w.instructions.length

def isEmpty (w : Window) : Bool := w.instructions.isEmpty

/-- Positions count from the start of the window. -/
def get? (w : Window) (index : Nat) : Option Instruction := w.instructions[index]?

def get (w : Window) (index : Nat) : Except OutOfRange Instruction :=
  match w.get? index with
  | some i => .ok i
  | none => .error ⟨w.length, index⟩

def dump (w : Window) : String :=
  Structured.record "MatchResult"
    [("start", toString w.start), ("instructions", w.instructions.dump)]

end Window

def Pattern.offset? (p : Pattern) : List Opcode → Option Nat
  | [] => if p.isPrefixOf [] then some 0 else none
  | c :: cs => if p.isPrefixOf (c :: cs) then some 0 else (p.offset? cs).map (· + 1)

namespace Body

def startsWith (b : Body) (p : Pattern) : Bool := p.isPrefixOf b.opcodes

def isExactly (b : Body) (p : Pattern) : Bool := b.opcodes == p

def endsWith (b : Body) (p : Pattern) : Bool := p.isSuffixOf b.opcodes

/-- The leftmost window with the opcodes of a pattern. -/
def find? (b : Body) (p : Pattern) : Option Window :=
  if p.isEmpty then none
  else (p.offset? b.opcodes).map fun start => ⟨start, (b.drop start).take p.length⟩

def contains (b : Body) (p : Pattern) : Bool := (b.find? p).isSome

theorem startsWith_iff (b : Body) (p : Pattern) : b.startsWith p = true ↔ p <+: b.opcodes :=
  List.isPrefixOf_iff_prefix

theorem isExactly_iff (b : Body) (p : Pattern) : b.isExactly p = true ↔ b.opcodes = p := by
  simp [isExactly]

theorem endsWith_iff (b : Body) (p : Pattern) : b.endsWith p = true ↔ p <:+ b.opcodes :=
  List.isSuffixOf_iff_suffix

end Body
end OpcodeRecovery
