import ApiDesign.Decimal.Shortest

/-!
# Texts of floating-point numbers

A `Style` says how a format spells a decimal: for which places of the leading digit the notation is
positional, and how the exponent is written elsewhere.

* `Style.text` — the text of a decimal;
* `floatText` — the text of a finite double, by its shortest decimal.
-/

namespace ApiDesign

namespace Decimal

/-- How a format spells decimals. -/
structure Style where
  /-- The least place of the leading digit that is written positionally. -/
  leastPlace : Int
  /-- The greatest place of the leading digit that is written positionally. -/
  greatestPlace : Int
  /-- Whether a positive exponent carries a plus sign. -/
  plus : Bool

/-- The decimal digits of a number. -/
def digitChars (n : Nat) : List Char := Nat.toDigits 10 n

/-- `count` zeros. -/
def zeros (count : Nat) : List Char := List.replicate count '0'

/-- Positional notation with at least one digit on either side of the point. -/
def positional (d : Decimal) : List Char :=
  let ds := digitChars d.digits
  if 0 ≤ d.exponent then ds ++ zeros d.exponent.toNat ++ ['.', '0']
  else
    let after := (-d.exponent).toNat
    if after < ds.length then ds.take (ds.length - after) ++ '.' :: ds.drop (ds.length - after)
    else '0' :: '.' :: zeros (after - ds.length) ++ ds

/-- Notation with an exponent: one digit, the point only if more digits follow, `e`, exponent. -/
def scientific (plus : Bool) (d : Decimal) : List Char :=
  let ds := digitChars d.digits
  let place := d.exponent + ds.length - 1
  let sign := if place < 0 then ['-'] else if plus then ['+'] else []
  ds.take 1 ++ (if ds.length ≤ 1 then [] else '.' :: ds.drop 1)
    ++ 'e' :: sign ++ digitChars place.natAbs

/-- The text of a positive decimal. -/
def Style.text (s : Style) (d : Decimal) : List Char :=
  let place := d.exponent + (digitChars d.digits).length - 1
  if s.leastPlace ≤ place ∧ place ≤ s.greatestPlace then positional d
  else scientific s.plus d

end Decimal

/-- The text of a finite double; zero keeps its sign. -/
def floatText (s : Decimal.Style) (x : Float) : String :=
  let bits := x.toBits
  let sign := if bits.toNat / Nat.pow 2 63 = 1 then ['-'] else []
  let b := Binary.ofBits bits
  let body := if b.mantissa = 0 then ['0', '.', '0'] else s.text b.shortest
  String.ofList (sign ++ body)

end ApiDesign
