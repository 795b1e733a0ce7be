import Automation.Number.Binary64

/-!
# The shortest decimal text of a number

`shortest` finds the fewest significant digits that read back to a number, and among those the
nearest to it: for one digit, then two, up to seventeen, it tries the two points of that decimal
grid around the value and takes one that lies in the interval of reals that round to the number.
The ends of the interval belong to it exactly when the significand is even. `Layout` holds the
choices of a format, and `Binary64.text` writes the digits by them.
-/

set_option autoImplicit false

namespace Automation.Binary64

/-- The non-negative real `base · 2^twos · 10^tens`, compared and divided exactly. -/
structure Scaled where
  base : Nat
  twos : Int
  tens : Int

/-- The first number with its positive powers, times the powers that clear the negative ones of the
second. -/
def Scaled.clear (a b : Scaled) : Nat :=
  a.base * Nat.pow 2 a.twos.toNat * Nat.pow 2 (-b.twos).toNat *
    Nat.pow 10 a.tens.toNat * Nat.pow 10 (-b.tens).toNat

/-- `a ≤ b` as reals. -/
def Scaled.le (a b : Scaled) : Bool := a.clear b ≤ b.clear a

/-- `a < b` as reals. -/
def Scaled.lt (a b : Scaled) : Bool := a.clear b < b.clear a

/-- The number of decimal digits of a natural number. -/
def digitCount (n : Nat) : Nat := (Nat.toDigits 10 n).length

/-- The power of ten `k` with `10^k ≤ m · 2^e < 10^(k+1)`, for positive `m`. -/
def decade (m : Nat) (e : Int) : Int :=
  let num := numerator m e
  let den := denominator e
  if den ≤ num then (digitCount (num / den) : Int) - 1
  else
    let k : Nat := digitCount (den / num)
    if den ≤ num * Nat.pow 10 (k - 1) then 1 - (k : Int) else -(k : Int)

/-- The lower end of the rounding interval, in quarters of the last place: the numbers below a power
of two lie twice as dense. -/
def lowerEnd (m : Nat) (e : Int) : Nat :=
  if m = Nat.pow 2 (precision - 1) ∧ minExponent < e then 4 * m - 1 else 4 * m - 2

/-- Whether the decimal `d · 10^k` rounds to `m · 2^e`. -/
def readsBack (m : Nat) (e : Int) (d : Nat) (k : Int) : Bool :=
  let candidate : Scaled := ⟨d, 0, k⟩
  let low : Scaled := ⟨lowerEnd m e, e - 2, 0⟩
  let high : Scaled := ⟨4 * m + 2, e - 2, 0⟩
  if m % 2 = 0 then low.le candidate && candidate.le high
  else low.lt candidate && candidate.lt high

/-- The multiple of `10^k` that reads back and is nearest to `m · 2^e`, divided by `10^k`. -/
def onGrid? (m : Nat) (e k : Int) : Option Nat :=
  let value : Scaled := ⟨m, e, 0⟩
  let unit : Scaled := ⟨1, 0, k⟩
  let below := value.clear unit / unit.clear value
  match readsBack m e below k, readsBack m e (below + 1) k with
  | true, true =>
    let middle : Scaled := ⟨2 * below + 1, 0, k⟩
    let twice : Scaled := ⟨2 * m, e, 0⟩
    if twice.lt middle then some below
    else if middle.lt twice then some (below + 1)
    else some (below + below % 2)
  | true, false => some below
  | false, true => some (below + 1)
  | false, false => none

/-- Digits `d` and power `k` such that `d · 10^k` is the shortest decimal that reads back to
`m · 2^e`, for positive `m`. Seventeen digits always suffice. -/
def shortest (m : Nat) (e : Int) : Nat × Int :=
  let top := decade m e
  let onDigits (n : Nat) : Option (Nat × Int) :=
    (onGrid? m e (top - (n : Int))).map fun d => (d, top - (n : Int))
  ((List.range 17).findSome? onDigits).getD (0, 0)

/-- The choices of a decimal format. -/
structure Layout where
  /-- The least decimal exponent that is written positionally. -/
  leastPositional : Int
  /-- The least decimal exponent from which on exponent notation is used. -/
  endPositional : Int
  /-- Least number of digits of a written exponent. -/
  exponentWidth : Nat
  /-- What follows the digits of a positional integer. -/
  integerMark : String

/-- The format of the numbers in answers: positional from `10^-4` to below `10^16`, an integer with
`.0`, and exponents with a sign and two digits. -/
def Layout.answer : Layout := ⟨-4, 16, 2, ".0"⟩

/-- Trailing zeros dropped. -/
def dropZeros (ds : List Char) : List Char :=
  (ds.reverse.dropWhile (· == '0')).reverse

/-- Significant digits written with the first of them at the power of ten `x`. -/
def Layout.digits (layout : Layout) (ds : List Char) (x : Int) : String :=
  if layout.leastPositional ≤ x ∧ x < layout.endPositional then
    if x < 0 then
      "0." ++ String.ofList (List.replicate ((-x).toNat - 1) '0' ++ ds)
    else
      let whole := x.toNat + 1
      if ds.length ≤ whole then
        String.ofList (ds ++ List.replicate (whole - ds.length) '0') ++ layout.integerMark
      else String.ofList (ds.take whole ++ '.' :: ds.drop whole)
  else
    let mantissa :=
      match ds with
      | d :: e :: rest => String.ofList (d :: '.' :: e :: rest)
      | ds => String.ofList ds
    let power := toString x.natAbs
    let power := String.ofList (List.replicate (layout.exponentWidth - power.length) '0') ++ power
    mantissa ++ "e" ++ (if x < 0 then "-" else "+") ++ power

/-- The text of a number in a layout. -/
def textWith (layout : Layout) : Binary64 → String
  | .nan => "nan"
  | .infinite negative => if negative then "-inf" else "inf"
  | .finite negative m e =>
    let sign := if negative then "-" else ""
    if m = 0 then sign ++ "0" ++ layout.integerMark
    else
      let (d, k) := shortest m e
      let ds := Nat.toDigits 10 d
      sign ++ layout.digits (dropZeros ds) (k + ds.length - 1)

/-- The text of a number in answers. -/
def text (x : Binary64) : String := x.textWith Layout.answer

end Automation.Binary64
