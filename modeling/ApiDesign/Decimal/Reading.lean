/-!
# Decimal texts as doubles

* `Decimal.readParts?` — reads digits with an optional point and an optional exponent;
* `Decimal.parseFloat?` — rounds such a number to the nearest double; a number too large for a double
  is refused.
-/

namespace ApiDesign.Decimal

/-- Whether all characters are decimal digits and there is at least one. -/
def areDigits (cs : List Char) : Bool := !cs.isEmpty && cs.all Char.isDigit

/-- The number that digits stand for, read on from a number. -/
def readDigits (n : Nat) (cs : List Char) : Nat :=
  cs.foldl (fun n c => 10 * n + (c.toNat - '0'.toNat)) n

/-- The double nearest to `digits * 10 ^ exponent`.  Numbers far beyond the range of doubles are
recognised by the place of their leading digit. -/
def toFloat (digits : Nat) (exponent : Int) : Float :=
  let place := exponent + (Nat.toDigits 10 digits).length
  if digits = 0 || place < -400 then 0.0
  else if 400 < place then 1.0 / 0.0
  else if 0 ≤ exponent then Float.ofScientific digits false exponent.toNat
  else Float.ofScientific digits true (-exponent).toNat

/-- Reads an exponent: an optional sign and digits. -/
def readExponent? : List Char → Option Int
  | '+' :: r => if areDigits r then some (readDigits 0 r) else none
  | '-' :: r => if areDigits r then some (-(readDigits 0 r : Int)) else none
  | r => if areDigits r then some (readDigits 0 r) else none

/-- Reads the parts of a number without sign: digits with an optional point, at least one digit in
all, and an optional exponent.  The digits before and after the point are one number, and the exponent
goes with it. -/
def readParts? (cs : List Char) : Option (List Char × Int) := do
  let whole := cs.takeWhile Char.isDigit
  let afterWhole := cs.drop whole.length
  let fraction := match afterWhole with
    | '.' :: r => r.takeWhile Char.isDigit
    | _ => []
  let rest := match afterWhole with
    | '.' :: r => r.drop fraction.length
    | r => r
  if whole.isEmpty && fraction.isEmpty then failure
  let exponent ← match rest with
    | [] => some 0
    | 'e' :: r | 'E' :: r => readExponent? r
    | _ => none
  return (whole ++ fraction, exponent - fraction.length)

/-- Reads a number without sign. -/
def readUnsigned? (cs : List Char) : Option Float := do
  let (digits, exponent) ← readParts? cs
  let x := toFloat (readDigits 0 digits) exponent
  if x.isFinite then return x else failure

/-- Reads a number with an optional minus sign. -/
def parseFloat? : List Char → Option Float
  | '-' :: r => (readUnsigned? r).map fun x => -x
  | r => readUnsigned? r

end ApiDesign.Decimal
