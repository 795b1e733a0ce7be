import Automation.Text.Digit

/-!
# Texts in ASCII

The head of a message holds ASCII alone. `NotAscii.of?` finds the first run of other characters in a
text, which is what a report of it names.
-/

set_option autoImplicit false

namespace Automation.Text

/-- Whether a character is one of ASCII. -/
def isAscii (c : Char) : Bool := c.toNat < 0x80

/-- A character by its number in hexadecimal. -/
def numbered (c : Char) : String :=
  let n := c.toNat
  if n < 0x100 then "\\x" ++ hexText 2 n
  else if n < 0x10000 then "\\u" ++ hexText 4 n
  else "\\U" ++ hexText 8 n

/-- A run of characters beyond ASCII: the first of them, where it stands, and their number. -/
structure NotAscii where
  first : Char
  position : Nat
  length : Nat
  deriving DecidableEq, Repr

namespace NotAscii

/-- The wording of the defect. -/
def message (d : NotAscii) : String :=
  "'ascii' codec can't encode character" ++
    (if d.length = 1 then " '" ++ numbered d.first ++ "' in position " ++ toString d.position
     else "s in position " ++ toString d.position ++ "-" ++
      toString (d.position + d.length - 1)) ++
    ": ordinal not in range(128)"

/-- The first run of characters beyond ASCII in a text. -/
def of? (s : String) : Option NotAscii :=
  let front := s.toList.takeWhile isAscii
  match (s.toList.drop front.length).takeWhile fun c => !isAscii c with
  | [] => none
  | c :: rest => some ⟨c, front.length, rest.length + 1⟩

end NotAscii

end Automation.Text
