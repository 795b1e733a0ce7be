import Automation.Text.Surrogate

/-!
# UTF-8

`decodeUtf8` reads UTF-8 one byte at a time. A sequence that breaks off is reported once for its
longest well-formed beginning, and the byte that broke it is read again as a beginning of its own.
A reader may choose to take the written halves of surrogate pairs for characters; otherwise each of
their bytes is ill-formed.
-/

set_option autoImplicit false

namespace Automation.Text

/-- Where the reader stands: between characters, or inside one whose value so far is `value`, with
`left` bytes to come of which the next lies between `low` and `high`. -/
inductive Utf8Place where
  | between
  | inside (left value low high : Nat)

/-- The effect of a byte that begins a character: the character or fault it completes, if any, and
the place after it. -/
def Utf8Place.begin (halves : Bool) (b : Nat) : List (Option Char) × Utf8Place :=
  if b < 0x80 then ([some (Char.ofNat b)], .between)
  else if 0xC2 ≤ b ∧ b ≤ 0xDF then ([], .inside 1 (b - 0xC0) 0x80 0xBF)
  else if b = 0xE0 then ([], .inside 2 0 0xA0 0xBF)
  else if b = 0xED then ([], .inside 2 0xD 0x80 (if halves then 0xBF else 0x9F))
  else if 0xE1 ≤ b ∧ b ≤ 0xEF then ([], .inside 2 (b - 0xE0) 0x80 0xBF)
  else if b = 0xF0 then ([], .inside 3 0 0x90 0xBF)
  else if b = 0xF4 then ([], .inside 3 4 0x80 0x8F)
  else if 0xF1 ≤ b ∧ b ≤ 0xF3 then ([], .inside 3 (b - 0xF0) 0x80 0xBF)
  else ([none], .between)

/-- The effect of one byte. -/
def Utf8Place.next (halves : Bool) (b : Nat) : Utf8Place → List (Option Char) × Utf8Place
  | .between => Utf8Place.begin halves b
  | .inside left value low high =>
    if low ≤ b ∧ b ≤ high then
      let value := value * 64 + (b - 0x80)
      if left ≤ 1 then ([some (unitChar value)], .between)
      else ([], .inside (left - 1) value 0x80 0xBF)
    else
      let (out, place) := Utf8Place.begin halves b
      (none :: out, place)

/-- The characters of a byte sequence from a place on; `none` stands for an ill-formed part. -/
def decodeUtf8From (halves : Bool) : Utf8Place → List UInt8 → List (Option Char)
  | .between, [] => []
  | .inside .., [] => [none]
  | place, b :: rest =>
    let (out, place) := place.next halves b.toNat
    out ++ decodeUtf8From halves place rest

/-- The characters of a byte sequence; `none` stands for an ill-formed part. -/
def decodeUtf8 (halves : Bool) (bytes : List UInt8) : List (Option Char) :=
  decodeUtf8From halves .between bytes

/-- The UTF-8 bytes of a text. -/
def utf8Bytes (s : String) : List UInt8 := s.toUTF8.toList

/-- The bytes that mark a text as UTF-8. -/
def utf8Mark : List UInt8 := [0xEF, 0xBB, 0xBF]

/-- The bytes after the mark, if they begin with it. -/
def afterUtf8Mark : List UInt8 → List UInt8
  | 0xEF :: 0xBB :: 0xBF :: rest => rest
  | bytes => bytes

end Automation.Text
