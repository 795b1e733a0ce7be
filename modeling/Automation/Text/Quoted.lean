import Automation.Text.Digit
import Automation.Text.Printable
import Automation.Text.Surrogate

/-!
# Quoted texts

`quoted` writes a text between quote marks so that it can be read on one line. The mark is the
apostrophe, unless the text holds apostrophes and no quotation mark. The mark and the backslash are
escaped by a backslash, line and tab controls by a letter, and every other character that is not
printable, and half a surrogate pair, by its code point in two, four or eight hexadecimal digits.
-/

set_option autoImplicit false

namespace Automation.Text

/-- The quote mark of a text. -/
def quoteMark (cs : List Char) : Char :=
  if cs.contains '\'' && !cs.contains '"' then '"' else '\''

/-- One character of a quoted text whose mark is `mark`. -/
def quotedChar (mark c : Char) : List Char :=
  if c = mark ∨ c = '\\' then ['\\', c]
  else if c = '\t' then ['\\', 't']
  else if c = '\n' then ['\\', 'n']
  else if c = '\r' then ['\\', 'r']
  else if isPrintable c then [c]
  else
    let n := (half? c).getD c.toNat
    if n < 0x100 then '\\' :: 'x' :: (hexText 2 n).toList
    else if n < 0x10000 then '\\' :: 'u' :: (hexText 4 n).toList
    else '\\' :: 'U' :: (hexText 8 n).toList

/-- The text between quote marks, with escapes. -/
def quoted (s : String) : String :=
  let mark := quoteMark s.toList
  String.ofList (mark :: (s.toList.flatMap (quotedChar mark) ++ [mark]))

end Automation.Text
