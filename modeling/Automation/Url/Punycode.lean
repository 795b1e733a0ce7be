/-!
# Punycode

A text beyond ASCII written in letters, digits and hyphens: its ASCII characters first, then for
every other character, from the least code point to the greatest, how far it lies from the one
before, counting all places where it could stand. The distances are written in digits to the base
36, and how many digits each takes is adapted to the distances so far.
-/

set_option autoImplicit false

namespace Automation.Url.Punycode

/-- The digit of a value below 36. -/
def digit (d : Nat) : Char :=
  if d < 26 then Char.ofNat ('a'.toNat + d) else Char.ofNat ('0'.toNat + (d - 26))

/-- The value below which a digit of a weight is the last one of its number: from 1 to 26. -/
def threshold (weight bias : Nat) : Nat := min 26 (max 1 (weight - bias))

theorem one_le_threshold (weight bias : Nat) : 1 ≤ threshold weight bias :=
  Nat.le_min.2 ⟨by decide, Nat.le_max_left 1 _⟩

/-- The digits of a distance from a weight on, the least first. -/
def digits (bias weight n : Nat) : List Char :=
  let t := threshold weight bias
  if n < t then [digit n]
  else digit (t + (n - t) % (36 - t)) :: digits bias (weight + 36) ((n - t) / (36 - t))
termination_by n
decreasing_by
  -- What is left after a digit is at most the distance less the threshold.
  have pos := one_le_threshold weight bias
  exact Nat.lt_of_le_of_lt (Nat.div_le_self _ _) (by omega)

/-- The bias that a distance brought down by thirty-fives leads to. -/
def settle (delta weight : Nat) : Nat :=
  if 455 < delta then settle (delta / 35) (weight + 36) else weight + 36 * delta / (delta + 38)
termination_by delta
decreasing_by exact Nat.div_lt_self (by omega) (by omega)

/-- The bias after a distance, when so many characters stand already. -/
def adapt (delta count : Nat) (first : Bool) : Nat :=
  let delta := if first then delta / 700 else delta / 2
  settle (delta + delta / count) 0

/-- What has been written: the digits, the distance since the last character, the bias and how many
characters stand already. -/
structure State where
  out : List Char
  delta : Nat
  bias : Nat
  count : Nat

/-- The state after one character of the text has been passed while characters of a code point are
written. -/
def State.pass (point basic : Nat) (s : State) (c : Char) : State :=
  if c.toNat < point then { s with delta := s.delta + 1 }
  else if c.toNat = point then
    ⟨s.out ++ digits s.bias 36 s.delta, 0, adapt s.delta (s.count + 1) (s.count == basic),
      s.count + 1⟩
  else s

/-- The state after all characters of a code point have been written. `least` is the least code
point that may still come. -/
def State.write (text : List Char) (basic : Nat) (s : State) (least point : Nat) : State :=
  let s := { s with delta := s.delta + (point - least) * (s.count + 1) }
  let s := text.foldl (State.pass point basic) s
  { s with delta := s.delta + 1 }

/-- The state after all characters of some code points in increasing order. -/
def State.writeAll (text : List Char) (basic : Nat) : (least : Nat) → List Nat → State → State
  | _, [], s => s
  | least, point :: rest, s =>
    writeAll text basic (point + 1) rest (s.write text basic least point)

/-- The text in letters, digits and hyphens. -/
def encode (text : List Char) : List Char :=
  let basic := text.filter fun c => c.toNat < 0x80
  let points := (text.map Char.toNat).filter (0x80 ≤ ·)
  let points := (points.mergeSort (· ≤ ·)).eraseReps
  let s := State.writeAll text basic.length 0x80 points ⟨[], 0, 72, basic.length⟩
  basic ++ (if basic.isEmpty then [] else ['-']) ++ s.out

end Automation.Url.Punycode
