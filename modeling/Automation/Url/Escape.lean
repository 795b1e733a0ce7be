import Automation.Text.Digit
import Automation.Text.Utf8

/-!
# Percent escapes

A character that may not stand in a part of an address is written as the bytes of its UTF-8, each as
a percent sign and two hexadecimal digits. `escape` leaves escapes that stand in a text already as
they are, so escaping twice is escaping once. `unescape` reads the bytes back; a percent sign
without two digits stands for itself.
-/

set_option autoImplicit false

namespace Automation.Url

open Automation.Text

/-- Characters that never need an escape. -/
def isUnreserved (c : Char) : Bool := c.isAlphanum || "-._~".toList.contains c

/-- Characters of ASCII that leave a mark on paper, without some of them. -/
def isVisibleBut (without : String) (c : Char) : Bool :=
  0x21 ≤ c.toNat && c.toNat ≤ 0x7E && !without.toList.contains c

/-- Characters that may stand in a path. -/
def isPathChar : Char → Bool := isVisibleBut "\"#<>?`\x7b\x7d"

/-- Characters that may stand in a query. -/
def isQueryChar : Char → Bool := isVisibleBut "\"#<>"

/-- Characters that may stand in a fragment. -/
def isFragmentChar : Char → Bool := isVisibleBut "\"<>`"

/-- Characters that may stand in the name and password of a user. -/
def isUserChar : Char → Bool := isVisibleBut "\"#<>?`\x7b\x7d/;=@[\\]^|"

/-- Characters that may stand in the name of a host. -/
def isHostChar (c : Char) : Bool := "!$&'()*+,;=\"`\x7b\x7d%|\\".toList.contains c

/-- One byte as an escape. -/
def escapedByte (b : UInt8) : List Char :=
  '%' :: (hexText 2 b.toNat).toList.map Char.toUpper

/-- One character, as an escape unless it may stand. -/
def escapedChar (may : Char → Bool) (c : Char) : List Char :=
  if isUnreserved c || may c then [c] else (utf8Bytes c.toString).flatMap escapedByte

/-- Whether a character is a hexadecimal digit. -/
def isHex (c : Char) : Bool := (hexDigit? c).isSome

/-- The characters of a text in which every character that may not stand is an escape. -/
def escapeChars (may : Char → Bool) : List Char → List Char
  | '%' :: a :: b :: rest =>
    if isHex a && isHex b then '%' :: a :: b :: escapeChars may rest
    else escapedChar may '%' ++ escapeChars may (a :: b :: rest)
  | c :: rest => escapedChar may c ++ escapeChars may rest
  | [] => []

/-- The text in which every character that may not stand is an escape. -/
def escape (may : Char → Bool) (s : String) : String :=
  String.ofList (escapeChars may s.toList)

/-- The bytes that the characters of a text stand for. -/
def unescapedBytes : List Char → List UInt8
  | '%' :: a :: b :: rest =>
    match hexDigit? a, hexDigit? b with
    | some high, some low => UInt8.ofNat (16 * high + low) :: unescapedBytes rest
    | _, _ => utf8Bytes "%" ++ unescapedBytes (a :: b :: rest)
  | c :: rest => utf8Bytes c.toString ++ unescapedBytes rest
  | [] => []

/-- The text that a text with escapes stands for, with U+FFFD for ill-formed parts. -/
def unescape (s : String) : String :=
  String.ofList ((decodeUtf8 false (unescapedBytes s.toList)).map (·.getD replacement))

end Automation.Url
