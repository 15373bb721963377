/-!
Binary floating-point words, read as the numbers they stand for. A word holds a sign, an exponent
field and a fraction field; a finite number is a natural number times a power of two. No arithmetic
of the machine is involved. Powers are written `Nat.pow`, which means the same under every import.
-/
namespace OpcodeRecovery.Binary

structure Format where
  exponentBits : Nat
  fractionBits : Nat
  deriving DecidableEq, Repr

def single : Format := ⟨8, 23⟩
def double : Format := ⟨11, 52⟩

/-- A finite number is `significand * 2 ^ exponent` with its sign. Zero keeps its sign, and every
    word that stands for no number is `nan`. -/
inductive Number where
  | nan
  | infinite (negative : Bool)
  | finite (negative : Bool) (significand : Nat) (exponent : Int)
  deriving DecidableEq, Repr

def Number.equals : Number → Number → Bool
  | .nan, _ | _, .nan => false
  | .finite _ 0 _, .finite _ 0 _ => true
  | x, y => x == y

namespace Format

/-- The significand of a normal number lies from here up to twice this. -/
def hidden (f : Format) : Nat := Nat.pow 2 f.fractionBits

def leastExponent (f : Format) : Int := 2 - Nat.pow 2 (f.exponentBits - 1) - f.fractionBits

/-- An exponent field of ones marks what is not finite, and one of zeros the numbers below the
    normal ones, which lack the hidden bit. -/
def decode (f : Format) (word : Nat) : Number :=
  let fraction := word % f.hidden
  let field := word / f.hidden % Nat.pow 2 f.exponentBits
  let negative := word / f.hidden / Nat.pow 2 f.exponentBits % 2 == 1
  if field = Nat.pow 2 f.exponentBits - 1 then
    if fraction = 0 then .infinite negative else .nan
  else if field = 0 then .finite negative fraction f.leastExponent
  else .finite negative (f.hidden + fraction) (f.leastExponent + (field - 1))

end Format
end OpcodeRecovery.Binary
