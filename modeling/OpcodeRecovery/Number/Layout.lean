import OpcodeRecovery.Number.Shortest

/-!
How a number is written once its digits are known: in plain positions near one, and with a power
of ten elsewhere.
-/
namespace OpcodeRecovery.Binary

/-- The powers of ten, from `plainFrom` up to but not including `plainBelow`, whose numbers are
    written in plain positions. -/
structure Layout where
  plainFrom : Int
  plainBelow : Int

def immediateLayout : Layout := ⟨-4, 16⟩

def Decimal.significant (d : Decimal) : List Char :=
  ((Nat.toDigits 10 d.digits).reverse.dropWhile (· == '0')).reverse

def Decimal.leading (d : Decimal) : Int := Interval.digitCount d.digits - 1 + d.exponent

namespace Layout

/-- Whole and fractional digits around a point; at least one digit stands on either side. -/
def plain (digits : List Char) (leading : Int) : List Char :=
  if leading < 0 then '0' :: '.' :: (List.replicate (-leading - 1).toNat '0' ++ digits)
  else
    let whole := (digits.take (leading.toNat + 1)).rightpad (leading.toNat + 1) '0'
    let fraction := digits.drop (leading.toNat + 1)
    whole ++ '.' :: (if fraction.isEmpty then ['0'] else fraction)

def scientific (digits : List Char) (leading : Int) : List Char :=
  let mantissa := match digits with
    | first :: second :: rest => first :: '.' :: second :: rest
    | short => short
  mantissa ++ 'e' :: (toString leading).toList

def decimal (l : Layout) (d : Decimal) : String :=
  String.ofList <|
    if l.plainFrom ≤ d.leading && d.leading < l.plainBelow then plain d.significant d.leading
    else scientific d.significant d.leading

def number (l : Layout) (f : Format) : Number → String
  | .nan => "NaN"
  | .infinite negative => if negative then "-inf" else "inf"
  | .finite negative significand exponent =>
    let magnitude :=
      if significand = 0 then "0.0"
      else l.decimal (f.roundingInterval significand exponent).shortest
    if negative then "-" ++ magnitude else magnitude

end Layout

def Format.text (f : Format) (word : Nat) : String := immediateLayout.number f (f.decode word)

end OpcodeRecovery.Binary
