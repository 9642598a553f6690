/-!
# Digits

* `hexDigits` — the digits of a number to base sixteen;
* `digitValue?`, `readNumber?` — the values of a digit and of digits to a base of at most sixteen.
-/

namespace ApiDesign.Text

/-- The digits of a number to base sixteen, in lower case. -/
def hexDigits (n : Nat) : List Char := Nat.toDigits 16 n

/-- The value of a digit to a base of at most sixteen. -/
def digitValue? (base : Nat) (c : Char) : Option Nat :=
  let value :=
    if '0' ≤ c ∧ c ≤ '9' then c.toNat - '0'.toNat
    else if 'a' ≤ c ∧ c ≤ 'f' then c.toNat - 'a'.toNat + 10
    else if 'A' ≤ c ∧ c ≤ 'F' then c.toNat - 'A'.toNat + 10
    else 16
  if value < base then some value else none

/-- The number that digits stand for, read on from a number. -/
def readBase? (base : Nat) (n : Nat) : List Char → Option Nat
  | [] => some n
  | c :: r => (digitValue? base c).bind fun d => readBase? base (base * n + d) r

/-- The number that one or more digits stand for. -/
def readNumber? (base : Nat) (cs : List Char) : Option Nat :=
  if cs.isEmpty then none else readBase? base 0 cs

end ApiDesign.Text
