/-!
# Shortest decimals

A finite double names an interval of reals, those that are rounded to it.  Its *shortest decimal*
is the point of the coarsest decimal grid that falls into the interval, and of two such points the
one nearer to the double.

* `Decimal` — the number `digits * 10 ^ exponent`;
* `Binary` — a positive double as `mantissa * 2 ^ exponent`, with its interval;
* `Binary.shortest` — the shortest decimal, found in exact arithmetic.
-/

namespace ApiDesign

/-- The number `digits * 10 ^ exponent`. -/
structure Decimal where
  digits : Nat
  exponent : Int
  deriving DecidableEq, Repr

/-- A positive double: `mantissa * 2 ^ exponent`. -/
structure Binary where
  mantissa : Nat
  exponent : Int
  deriving DecidableEq, Repr

namespace Binary

/-- The least exponent of a double, that of the subnormal numbers. -/
def leastExponent : Int := -1074

/-- The absolute value of a finite double; the sign bit is not looked at. -/
def ofBits (bits : UInt64) : Binary :=
  let fraction := bits.toNat % Nat.pow 2 52
  let biased := bits.toNat / Nat.pow 2 52 % Nat.pow 2 11
  if biased = 0 then ⟨fraction, leastExponent⟩
  else ⟨fraction + Nat.pow 2 52, leastExponent + (biased - 1 : Nat)⟩

/-- The numerator and denominator of `n * 2 ^ e`. -/
def ratio (n : Nat) (e : Int) : Nat × Nat :=
  if 0 ≤ e then (n * Nat.pow 2 e.toNat, 1) else (n, Nat.pow 2 (-e).toNat)

/-- Half the distance to the next smaller double, in units of a quarter of the last place: below a
power of two the doubles lie twice as dense. -/
def gapBelow (b : Binary) : Nat :=
  if b.mantissa = Nat.pow 2 52 ∧ b.exponent ≠ leastExponent then 1 else 2

/-- Whether `n / d` is rounded to the double; the ends of the interval belong to it if and only if
the mantissa is even. -/
def holds (b : Binary) (n d : Nat) : Bool :=
  let low := ratio (4 * b.mantissa - b.gapBelow) (b.exponent - 2)
  let high := ratio (4 * b.mantissa + 2) (b.exponent - 2)
  if b.mantissa % 2 = 0 then low.1 * d ≤ n * low.2 && n * high.2 ≤ high.1 * d
  else low.1 * d < n * low.2 && n * high.2 < high.1 * d

/-- The least `j` up to a bound with `d ≤ n * 10 ^ j`. -/
def tensToReach (n d : Nat) : Nat → Nat
  | 0 => 0
  | bound + 1 => if d ≤ n then 0 else tensToReach (n * 10) d bound + 1

/-- The place of the leading decimal digit of the double. -/
def leadingPlace (b : Binary) : Int :=
  let (n, d) := ratio b.mantissa b.exponent
  if d ≤ n then (Nat.toDigits 10 (n / d)).length - 1 else -(tensToReach n d 400 : Int)

/-- The point of the grid `10 ^ place` that is rounded to the double, if there is one. -/
def onGrid (b : Binary) (place : Int) : Option Decimal :=
  let (n, d) := ratio b.mantissa b.exponent
  let up := Nat.pow 10 place.toNat
  let down := Nat.pow 10 (-place).toNat
  let (n, d) := if 0 ≤ place then (n, d * up) else (n * down, d)
  let below := n / d
  let scaled (k : Nat) : Nat × Nat :=
    if 0 ≤ place then (k * up, 1) else (k, down)
  let hit (k : Nat) : Bool := k ≠ 0 && b.holds (scaled k).1 (scaled k).2
  let above := below + 1
  let nearer := if 2 * (n - below * d) < d ∨ (2 * (n - below * d) = d ∧ below % 2 = 0)
    then below else above
  if hit below && hit above then some ⟨nearer, place⟩
  else if hit below then some ⟨below, place⟩
  else if hit above then some ⟨above, place⟩
  else none

/-- The first hit on ever finer grids, at most `more` of them. -/
def search (b : Binary) (place : Int) : Nat → Decimal
  | 0 => ⟨0, 0⟩
  | more + 1 => (b.onGrid place).getD (search b (place - 1) more)

/-- The shortest decimal of a positive double.  The first grid lies one place above the leading
digit, where a power of ten may be hit from below; seventeen digits always suffice. -/
def shortest (b : Binary) : Decimal := b.search (b.leadingPlace + 1) 19

end Binary

end ApiDesign
