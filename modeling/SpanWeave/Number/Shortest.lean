import SpanWeave.Number.Binary64

/-!
# The shortest decimal text of a number

A finite number is written with the fewest significant digits that read back as the same number; of
two such texts of equal length the nearer one is taken, and of two equally near ones the even one.
`Binary64.text` writes those digits positionally from `0.0001` up to below `10 ^ 16`, and with an
exponent outside.
-/

set_option autoImplicit false

namespace SpanWeave.Binary64

/-- The exponent `k` with `10 ^ k ≤ n / d < 10 ^ (k + 1)`, for positive `n` and `d`. -/
def decimalExponent (n d : Nat) : Int :=
  if n ≥ d then ((Nat.toDigits 10 (n / d)).length : Int) - 1
  else -((Nat.toDigits 10 ((d + n - 1) / n - 1)).length : Int)

/-- Compares `a * 10 ^ p` with `x * 2 ^ q`. -/
def comparePowers (a : Nat) (p : Int) (x : Nat) (q : Int) : Ordering :=
  compare (a * Nat.pow 10 p.toNat * Nat.pow 2 (-q).toNat)
    (x * Nat.pow 10 (-p).toNat * Nat.pow 2 q.toNat)

/-- Whether `a * 10 ^ p` reads back as the number `m * 2 ^ e`. -/
def readsBack (m : Nat) (e : Int) (a : Nat) (p : Int) : Bool :=
  let low := if m = Nat.pow 2 52 && e > -1074 then 4 * m - 1 else 4 * m - 2
  let high := 4 * m + 2
  let fromLow := comparePowers a p low (e - 2)
  let fromHigh := comparePowers a p high (e - 2)
  if m % 2 = 0 then fromLow != .lt && fromHigh != .gt else fromLow == .gt && fromHigh == .lt

/-- The decimal of `digits` significant digits that reads back as `m * 2 ^ e`, if there is one. -/
def decimalOf? (m : Nat) (e : Int) (k : Int) (digits : Nat) : Option (Nat × Int) :=
  let (n, d) := ratio m e
  let p : Int := k + 1 - digits
  let (sn, sd) := (n * Nat.pow 10 (-p).toNat, d * Nat.pow 10 p.toNat)
  let a := sn / sd
  let below := a != 0 && readsBack m e a p
  let above := readsBack m e (a + 1) p
  if below && above then some (roundQuotient sn sd, p)
  else if below then some (a, p)
  else if above then some (a + 1, p)
  else none

/-- The significant digits and the exponent of the shortest decimal of `m * 2 ^ e`. -/
def shortest (m : Nat) (e : Int) : Nat × Int :=
  let (n, d) := ratio m e
  let k := decimalExponent n d
  ((List.range 17).findSome? fun i => decimalOf? m e k (i + 1)).getD (m, e)

/-- Drops the zeros at the end of a run of digits. -/
def dropTrailingZeros (ds : List Char) : List Char := (ds.reverse.dropWhile (· == '0')).reverse

/-- An exponent with its sign and at least two digits. -/
def exponentText (k : Int) : String :=
  let ds := toString k.natAbs
  (if k < 0 then "e-" else "e+") ++ (if ds.length < 2 then "0" ++ ds else ds)

/-- Digits with the decimal point after the first `point` of them. -/
def positional (ds : List Char) (point : Int) : String :=
  if point ≤ 0 then "0." ++ String.ofList (List.replicate (-point).toNat '0' ++ ds)
  else
    let n := point.toNat
    if ds.length ≤ n then String.ofList (ds ++ List.replicate (n - ds.length) '0') ++ ".0"
    else String.ofList (ds.take n) ++ "." ++ String.ofList (ds.drop n)

/-- The text of a number. -/
def text : Binary64 → String
  | .nan => "nan"
  | .infinite negative => if negative then "-inf" else "inf"
  | .finite negative m e =>
    let body :=
      if m = 0 then "0.0"
      else
        let (a, p) := shortest m e
        let all := Nat.toDigits 10 a
        let point : Int := (all.length : Int) + p
        let ds := dropTrailingZeros all
        if -4 < point && point ≤ 16 then positional ds point
        else
          match ds with
          | [] => "0"
          | [c] => String.ofList [c] ++ exponentText (point - 1)
          | c :: cs => String.ofList (c :: '.' :: cs) ++ exponentText (point - 1)
    (if negative then "-" else "") ++ body

end SpanWeave.Binary64
