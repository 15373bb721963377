import OpcodeRecovery.Number.Binary

/-!
The shortest decimal for a positive binary number: of the decimals that lie within the reals
rounding to that number, those with the fewest digits, and of these the nearest. All comparisons
are between natural numbers.
-/
namespace OpcodeRecovery.Binary

/-- The reals that round to one number, as numerators over a common denominator. The ends belong
    to them if `closed`. -/
structure Interval where
  low : Nat
  value : Nat
  high : Nat
  denominator : Nat
  closed : Bool

structure Decimal where
  digits : Nat
  exponent : Int
  deriving DecidableEq, Repr

/-- Half a unit of the last place lies on either side of a number; below a power of two the next
    number is nearer, so only a quarter lies there, except at the least exponent. A tie between
    two numbers goes to the even one, so the ends belong to a number with an even significand. -/
def Format.roundingInterval (f : Format) (significand : Nat) (exponent : Int) : Interval :=
  let narrow := significand = f.hidden ∧ f.leastExponent < exponent
  let unit := Nat.pow 2 exponent.toNat
  { low := (4 * significand - if narrow then 1 else 2) * unit
    value := 4 * significand * unit
    high := (4 * significand + 2) * unit
    denominator := 4 * Nat.pow 2 (-exponent).toNat
    closed := significand % 2 == 0 }

namespace Interval

def contains (i : Interval) (d : Decimal) : Bool :=
  let point := d.digits * Nat.pow 10 d.exponent.toNat * i.denominator
  let scale := Nat.pow 10 (-d.exponent).toNat
  if i.closed then i.low * scale ≤ point && point ≤ i.high * scale
  else i.low * scale < point && point < i.high * scale

def digitCount (n : Nat) : Nat := (Nat.toDigits 10 n).length

def leadingExponent (i : Interval) : Int :=
  if i.denominator ≤ i.value then digitCount (i.value / i.denominator) - 1
  else -digitCount ((i.denominator - 1) / i.value)

/-- The decimal of `count` digits nearest to the value, if one lies in the interval. Only the two
    neighbours of the value can do so; where both are equally near, the greater is taken. -/
def nearest? (i : Interval) (count : Nat) : Option Decimal :=
  let exponent := i.leadingExponent - (count - 1)
  let unit := Nat.pow 10 exponent.toNat * i.denominator
  let scaled := i.value * Nat.pow 10 (-exponent).toNat
  let below : Decimal := ⟨scaled / unit, exponent⟩
  let above : Decimal := ⟨scaled / unit + 1, exponent⟩
  match i.contains below, i.contains above with
  | true, true => some (if 2 * (scaled % unit) < unit then below else above)
  | true, false => some below
  | false, true => some above
  | false, false => none

def shortest (i : Interval) : Decimal :=
  ((List.range 17).findSome? fun k => i.nearest? (k + 1)).getD ⟨0, 0⟩

end Interval
end OpcodeRecovery.Binary
