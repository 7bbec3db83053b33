/-!
# Double-precision numbers

The binary numbers of 53 significant bits, with exact rounding from ratios and from decimal
notation. A finite number is `mantissa * 2 ^ exponent`; its mantissa fills 53 bits unless the
exponent is the least one. All arithmetic is on natural numbers, so every value can be computed with
in proofs.
-/

set_option autoImplicit false

namespace SpanWeave

/-- A double-precision number. -/
inductive Binary64 where
  | nan
  | infinite (negative : Bool)
  | finite (negative : Bool) (mantissa : Nat) (exponent : Int)
deriving DecidableEq, Repr

namespace Binary64

/-- Zero, of either sign. -/
def zero (negative : Bool) : Binary64 := .finite negative 0 (-1074)

/-- The nearest whole number to a quotient; a half goes to the even neighbour. -/
def roundQuotient (n d : Nat) : Nat :=
  let q := n / d
  let r := n % d
  if 2 * r < d then q else if 2 * r > d then q + 1 else q + q % 2

/-- `n / d` in units of `2 ^ e`, as numerator and denominator. -/
def scaled (n d : Nat) (e : Int) : Nat × Nat :=
  if e ≥ 0 then (n, d * Nat.pow 2 e.toNat) else (n * Nat.pow 2 (-e).toNat, d)

/-- The double nearest to `n / d`, for a positive `d`; a tie goes to the even mantissa. -/
def ofRatio (negative : Bool) (n d : Nat) : Binary64 :=
  if n = 0 then zero negative
  else
    let guess : Int := max (-1074) ((Nat.log2 n : Int) - Nat.log2 d - 52)
    let (sn, sd) := scaled n d guess
    let e := if guess > -1074 && sn / sd < Nat.pow 2 52 then guess - 1 else guess
    let (sn, sd) := scaled n d e
    let m := roundQuotient sn sd
    let (m, e) := if m = Nat.pow 2 53 then (Nat.pow 2 52, e + 1) else (m, e)
    if e > 971 then .infinite negative else .finite negative m e

/-- The double nearest to `digits * 10 ^ exponent`. -/
def ofDecimal (negative : Bool) (digits : Nat) (exponent : Int) : Binary64 :=
  if digits = 0 then zero negative
  else
    let size : Int := ((Nat.toDigits 10 digits).length : Int) + exponent
    if size > 400 then .infinite negative
    else if size < -400 then zero negative
    else if exponent ≥ 0 then ofRatio negative (digits * Nat.pow 10 exponent.toNat) 1
    else ofRatio negative digits (Nat.pow 10 (-exponent).toNat)

/-- The size of a finite number as a ratio. -/
def ratio (mantissa : Nat) (exponent : Int) : Nat × Nat :=
  if exponent ≥ 0 then (mantissa * Nat.pow 2 exponent.toNat, 1)
  else (mantissa, Nat.pow 2 (-exponent).toNat)

/-- The rounded sum of two numbers that are not negative. -/
def addSizes : Binary64 → Binary64 → Binary64
  | .finite _ m e, .finite _ m' e' =>
    let (n, d) := ratio m e
    let (n', d') := ratio m' e'
    ofRatio false (n * d' + n' * d) (d * d')
  | _, _ => .infinite false

/-- The rounded product of two numbers that are not negative. -/
def mulSizes : Binary64 → Binary64 → Binary64
  | .finite _ m e, .finite _ m' e' =>
    let (n, d) := ratio m e
    let (n', d') := ratio m' e'
    ofRatio false (n * n') (d * d')
  | _, _ => .infinite false

/-- The number with the other sign. -/
def opposite : Binary64 → Binary64
  | .nan => .nan
  | .infinite negative => .infinite (!negative)
  | .finite negative m e => .finite (!negative) m e

/-- Whether the number is a zero of either sign. -/
def isZero : Binary64 → Bool
  | .finite _ 0 _ => true
  | _ => false

end Binary64

end SpanWeave
