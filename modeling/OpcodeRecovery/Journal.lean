import OpcodeRecovery.Opcode.Table
import OpcodeRecovery.VirtualInstruction

/-!
What is noted while opcodes are recovered: one event for each attempt, and one for a batch that
leaves some instructions unresolved. A result comes together with the events that were noted on the
way to it. Threads of a pool note side by side: each of their events is kept, in no certain order.
-/
namespace OpcodeRecovery

inductive Event where
  | identified (v : VirtualInstruction) (c : Opcode)
  | unmatched (v : VirtualInstruction)
  | leftUnresolved (unresolved total : Nat)

namespace Event

def verdict (v : VirtualInstruction) : Option Opcode → Event
  | some c => .identified v c
  | none => .unmatched v

def text : Event → String
  | .identified v c => "DEBUG identified " ++ v.text ++ " as " ++ c.mnemonic
  | .unmatched v => "DEBUG no recognizer matched " ++ v.text
  | .leftUnresolved unresolved total =>
    "WARN " ++ toString unresolved ++ " of " ++ toString total ++
      " virtual instructions left unresolved"

def sortedTexts (events : List Event) : List String :=
  (events.map text).mergeSort fun a b => decide (a ≤ b)

end Event

/-- A result with the events noted on the way to it, the earliest first. -/
structure Noted (α : Type) where
  result : α
  events : List Event

def Event.note (e : Event) : Noted Unit := ⟨(), [e]⟩

namespace Noted
variable {α β : Type}

instance : Monad Noted where
  pure x := ⟨x, []⟩
  bind x f := ⟨(f x.result).result, x.events ++ (f x.result).events⟩

@[simp] theorem result_pure (x : α) : (pure x : Noted α).result = x := rfl

@[simp] theorem events_pure (x : α) : (pure x : Noted α).events = [] := rfl

@[simp] theorem result_bind (x : Noted α) (f : α → Noted β) :
    (x >>= f).result = (f x.result).result := rfl

@[simp] theorem events_bind (x : Noted α) (f : α → Noted β) :
    (x >>= f).events = x.events ++ (f x.result).events := rfl

@[simp] theorem events_note (e : Event) : e.note.events = [e] := rfl

instance : LawfulMonad Noted := LawfulMonad.mk' Noted
  (by
    intro α x
    simp [Functor.map])
  (by
    intro α β x f
    simp [bind, pure])
  (by
    intro α β γ x f g
    simp [bind])

theorem mapM_eq (f : α → Noted β) (xs : List α) :
    xs.mapM f = ⟨xs.map fun x => (f x).result, xs.flatMap fun x => (f x).events⟩ := by
  induction xs with
  | nil => rfl
  | cons x xs ih =>
    rw [List.mapM_cons, ih]
    simp [bind, pure]

end Noted

/-- Threads that share one journal. No event is lost or noted twice; when it is noted depends on
    the threads. -/
structure Pool where
  merge : List (List Event) → List Event
  perm : ∀ noted, (merge noted).Perm noted.flatten

namespace Pool
variable {α β : Type}

def single : Pool := ⟨List.flatten, fun _ => .refl _⟩

def mapM (pool : Pool) (f : α → Noted β) (xs : List α) : Noted (List β) :=
  let done := (xs.map fun x => Task.spawn fun _ => f x).map Task.get
  ⟨done.map Noted.result, pool.merge (done.map Noted.events)⟩

theorem mapM_eq (pool : Pool) (f : α → Noted β) (xs : List α) :
    pool.mapM f xs = ⟨xs.map fun x => (f x).result, pool.merge (xs.map fun x => (f x).events)⟩ := by
  have done : (xs.map fun x => Task.spawn fun _ => f x).map Task.get = xs.map f := by
    rw [List.map_map]
    rfl
  rw [mapM, done, List.map_map, List.map_map]
  rfl

end Pool
end OpcodeRecovery
