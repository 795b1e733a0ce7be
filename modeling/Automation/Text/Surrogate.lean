/-!
# Surrogates

Code points beyond U+FFFF are written in 16 bits as a pair of surrogates. Half a pair is no
character. Where one stands alone and is not refused, a text holds in its place the private
character of the last plane whose number ends in the same four digits; `half?` finds the half again.
-/

set_option autoImplicit false

namespace Automation.Text

/-- The replacement character U+FFFD. -/
def replacement : Char := Char.ofNat 0xFFFD

/-- First halves of surrogate pairs. -/
def isHighHalf (n : Nat) : Bool := 0xD800 ≤ n && n ≤ 0xDBFF

/-- Second halves of surrogate pairs. -/
def isLowHalf (n : Nat) : Bool := 0xDC00 ≤ n && n ≤ 0xDFFF

/-- Halves of surrogate pairs. -/
def isHalf (n : Nat) : Bool := isHighHalf n || isLowHalf n

/-- The character of a code point that stands alone, or what a text holds in its place. -/
def unitChar (n : Nat) : Char := Char.ofNat (if isHalf n then 0x100000 + n else n)

/-- The half of a surrogate pair in whose place a text holds a character. -/
def half? (c : Char) : Option Nat :=
  let n := c.toNat - 0x100000
  if isHalf n then some n else none

/-- The character of a pair of surrogates. -/
def pairChar (high low : Nat) : Char :=
  Char.ofNat (0x10000 + (high - 0xD800) * 0x400 + (low - 0xDC00))

end Automation.Text
