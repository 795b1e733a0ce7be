import Automation.Text.Surrogate

/-!
# UTF-7

A text in ASCII, in which a plus sign begins a run of the sixty-four digits that stand for six bits
each of the UTF-16 of what is beyond. The run ends before the first character that is no digit; a
hyphen that ends it is passed over, and a plus sign with a hyphen after it stands for itself.
-/

set_option autoImplicit false

namespace Automation.Text.Utf7

/-- The value of a digit to the base sixty-four. -/
def digit? (b : Nat) : Option Nat :=
  if 0x41 ≤ b && b ≤ 0x5A then some (b - 0x41)
  else if 0x61 ≤ b && b ≤ 0x7A then some (b - 0x61 + 26)
  else if 0x30 ≤ b && b ≤ 0x39 then some (b - 0x30 + 52)
  else if b = 0x2B then some 62
  else if b = 0x2F then some 63
  else none

/-- A run of digits: its bits that make no whole unit yet, their number, and the first half of a
pair that waits for the second. -/
structure Run where
  bits : Nat
  count : Nat
  high : Option Nat
  deriving DecidableEq, Repr

namespace Run

/-- A run without a digit. -/
def empty : Run := ⟨0, 0, none⟩

/-- The run after a unit, and the characters that stand before it. -/
def unit (r : Run) (u : Nat) : List (Option Char) × Run :=
  match r.high with
  | some h =>
    if isLowHalf u then ([some (pairChar h u)], { r with high := none })
    else if isHighHalf u then ([some (unitChar h)], { r with high := some u })
    else ([some (unitChar h), some (unitChar u)], { r with high := none })
  | none =>
    if isHighHalf u then ([], { r with high := some u })
    else ([some (unitChar u)], r)

/-- The run after a digit, and the characters that stand before it. -/
def push (r : Run) (d : Nat) : List (Option Char) × Run :=
  let bits := 64 * r.bits + d
  let count := r.count + 6
  if count < 16 then ([], { r with bits, count })
  else
    let left := Nat.pow 2 (count - 16)
    { r with bits := bits % left, count := count - 16 }.unit (bits / left)

/-- Whether the bits that are left over make the run ill-formed. -/
def isBroken (r : Run) : Bool := 6 ≤ r.count || r.bits != 0

end Run

/-- The characters of a text from inside a run on, or from outside. -/
def decodeFrom : Option Run → List Nat → List (Option Char)
  | none, [] => []
  | some r, [] => if r.high.isSome || r.isBroken then [none] else []
  | none, [0x2B] => []
  | none, 0x2B :: b :: rest =>
    if b = 0x2D then some '+' :: decodeFrom none rest
    else if (digit? b).isSome then decodeFrom (some .empty) (b :: rest)
    else none :: decodeFrom none rest
  | none, b :: rest =>
    (if b < 0x80 then some (Char.ofNat b) else none) :: decodeFrom none rest
  | some r, b :: rest =>
    match digit? b with
    | some d =>
      let (chars, r) := r.push d
      chars ++ decodeFrom (some r) rest
    | none =>
      if r.isBroken then none :: decodeFrom none rest
      else
        (if b < 0x80 then (r.high.map unitChar).toList.map some else []) ++
          (if b = 0x2D then decodeFrom none rest
           else (if b < 0x80 then some (Char.ofNat b) else none) :: decodeFrom none rest)
termination_by _ bytes => bytes.length
decreasing_by all_goals (simp only [List.length_cons]; omega)

/-- The characters of a text; `none` stands for an ill-formed part. -/
def decode (bytes : List UInt8) : List (Option Char) := decodeFrom none (bytes.map UInt8.toNat)

end Automation.Text.Utf7
