/-!
# Double precision numbers, exactly

`Binary64` is the binary floating point format of 64 bits with its values as data: a finite number
is a sign, a significand below `2^53` and a power of two. `ofRatio` gives the number nearest to a
fraction, a tie going to the even significand, so every operation below is the exact result rounded
once. The form is canonical: equal numbers of equal sign are equal as data, and the two zeros
differ.
-/

set_option autoImplicit false

namespace Automation

/-- The nearest natural number to `num / den`; a half goes to the even neighbour. -/
def roundHalfEven (num den : Nat) : Nat :=
  let q := num / den
  let twice := 2 * (num % den)
  if twice < den then q else if den < twice then q + 1 else q + q % 2

/-- A number of the double precision format. -/
inductive Binary64 where
  | nan
  | infinite (negative : Bool)
  | finite (negative : Bool) (significand : Nat) (exponent : Int)
  deriving DecidableEq, Repr, Inhabited

namespace Binary64

/-- The least exponent, that of the subnormal numbers. -/
def minExponent : Int := -1074

/-- The greatest exponent of a finite number. -/
def maxExponent : Int := 971

/-- The number of bits of a normal significand. -/
def precision : Nat := 53

/-- The power of two `k` with `2^k ≤ num / den < 2^(k+1)`, for positive `num` and `den`. -/
def binade (num den : Nat) : Int :=
  let k : Int := (Nat.log2 num : Int) - (Nat.log2 den : Int)
  if num * Nat.pow 2 (-k).toNat < den * Nat.pow 2 k.toNat then k - 1 else k

/-- The exponent at which a fraction is rounded. -/
def exponentOf (num den : Nat) : Int :=
  if num = 0 then minExponent else max (binade num den - 52) minExponent

/-- The number nearest to `num / den`, with the given sign. -/
def ofRatio (negative : Bool) (num den : Nat) : Binary64 :=
  let e := exponentOf num den
  let m := roundHalfEven (num * Nat.pow 2 (-e).toNat) (den * Nat.pow 2 e.toNat)
  let (m, e) := if m = Nat.pow 2 precision then (Nat.pow 2 (precision - 1), e + 1) else (m, e)
  if maxExponent < e then .infinite negative else .finite negative m e

/-- The positive zero. -/
def zero : Binary64 := .finite false 0 minExponent

/-- The number nearest to an integer. -/
def ofInt (n : Int) : Binary64 := ofRatio (n < 0) n.natAbs 1

/-- The number nearest to `n / d`. -/
def ofIntRatio (n : Int) (d : Nat) : Binary64 := ofRatio (n < 0) n.natAbs d

/-- The number nearest to `digits · 10^power`. Powers far outside the format's range are decided
without being computed. -/
def ofDecimal (negative : Bool) (digits : Nat) (power : Int) : Binary64 :=
  if digits = 0 then ofRatio negative 0 1
  else
    let size : Int := power + (Nat.log2 digits : Int) / 3
    if 400 < power then .infinite negative
    else if size < -400 then ofRatio negative 0 1
    else ofRatio negative (digits * Nat.pow 10 power.toNat) (Nat.pow 10 (-power).toNat)

/-- Numerator of the magnitude `significand · 2^exponent`. -/
def numerator (significand : Nat) (exponent : Int) : Nat :=
  significand * Nat.pow 2 exponent.toNat

/-- Denominator of the magnitude `significand · 2^exponent`. -/
def denominator (exponent : Int) : Nat := Nat.pow 2 (-exponent).toNat

/-- An integer with a sign and a magnitude. -/
def signed (negative : Bool) (n : Nat) : Int := if negative then -(n : Int) else n

/-- Neither infinite nor a nan. -/
def isFinite : Binary64 → Bool
  | .finite .. => true
  | _ => false

/-- Equal to zero, of either sign. -/
def isZero : Binary64 → Bool
  | .finite _ m _ => m == 0
  | _ => false

/-- Strictly above zero. -/
def isPositive : Binary64 → Bool
  | .finite negative m _ => !negative && m != 0
  | .infinite negative => !negative
  | .nan => false

/-- The integer part, rounded toward zero. -/
def truncate : Binary64 → Int
  | .finite negative m e => signed negative (numerator m e / denominator e)
  | _ => 0

/-- The greatest integer that is not above the number. -/
def floor : Binary64 → Int
  | .finite negative m e => Int.fdiv (signed negative (numerator m e)) (denominator e)
  | _ => 0

/-- The nearest integer; a half goes to the even neighbour. -/
def nearestInt : Binary64 → Int
  | .finite negative m e => signed negative (roundHalfEven (numerator m e) (denominator e))
  | _ => 0

/-- The nearest integer; a half goes away from zero. -/
def nearestIntAway : Binary64 → Int
  | .finite negative m e =>
    signed negative ((2 * numerator m e + denominator e) / (2 * denominator e))
  | _ => 0

/-- Whether a finite number has no fractional part. -/
def isIntegral : Binary64 → Bool
  | .finite _ m e => numerator m e % denominator e == 0
  | _ => false

/-- The integer that a number is, when it is one. -/
def toInt? (x : Binary64) : Option Int :=
  if x.isIntegral then some x.truncate else none

/-- The fractional part, with the sign of the number. -/
def fraction : Binary64 → Binary64
  | .finite negative m e =>
    ofRatio negative (numerator m e % denominator e) (denominator e)
  | x => x

/-- The product with a positive integer. -/
def scale (x : Binary64) (k : Nat) : Binary64 :=
  match x with
  | .finite negative m e => ofRatio negative (numerator m e * k) (denominator e)
  | x => x

/-- The difference from an integer. -/
def minusInt (x : Binary64) (n : Int) : Binary64 :=
  match x with
  | .finite negative m e =>
    ofIntRatio (signed negative (numerator m e) - n * (denominator e : Int)) (denominator e)
  | x => x

/-- Whether the magnitude exceeds a natural number. -/
def exceeds (x : Binary64) (n : Nat) : Bool :=
  match x with
  | .finite _ m e => n * denominator e < numerator m e
  | .infinite _ => true
  | .nan => false

end Binary64

end Automation
