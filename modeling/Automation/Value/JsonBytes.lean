import Automation.Text.Utf16
import Automation.Text.Utf8
import Automation.Value.Json

/-!
# JSON in bytes

JSON that comes as bytes may be written in any of the Unicode encodings. A mark at its beginning
names the encoding; without a mark it is told from the zeros among the first four bytes, since a
JSON text begins with two ASCII characters. A mark is no part of the text.
-/

set_option autoImplicit false

namespace Automation.Json

open Automation.Text

/-- The Unicode encodings. -/
inductive Form where
  | utf8
  | utf16 (order : ByteOrder)
  | utf32 (order : ByteOrder)
  deriving DecidableEq, Repr

/-- The encoding of a text without a mark. -/
def unmarkedForm : List UInt8 → Form
  | 0 :: b :: _ :: _ :: _ => if b = 0 then .utf32 .bigEndian else .utf16 .bigEndian
  | _ :: 0 :: c :: d :: _ =>
    if c = 0 && d = 0 then .utf32 .littleEndian else .utf16 .littleEndian
  | [0, _] => .utf16 .bigEndian
  | [_, 0] => .utf16 .littleEndian
  | _ => .utf8

/-- The encoding of a text, and its bytes after the mark. -/
def form (bytes : List UInt8) : Form × List UInt8 :=
  match ByteOrder.ofMark32? bytes with
  | some order => (.utf32 order, bytes.drop 4)
  | none =>
    match ByteOrder.ofMark16? bytes with
    | some order => (.utf16 order, bytes.drop 2)
    | none =>
      if utf8Mark.isPrefixOf bytes then (.utf8, afterUtf8Mark bytes)
      else (unmarkedForm bytes, bytes)

/-- The characters of a text, or nothing when it is ill-formed anywhere. Half a surrogate pair may
stand alone. -/
def characters? (bytes : List UInt8) : Option (List Char) :=
  let decoded := match form bytes with
    | (.utf8, bytes) => decodeUtf8 true bytes
    | (.utf16 order, bytes) => decodeUtf16 true order bytes
    | (.utf32 order, bytes) => decodeUtf32 true order bytes
  decoded.mapM id

/-- The value that bytes hold, when `room` lists and records may be nested in it. -/
def readBytes (room : Nat) (bytes : List UInt8) : Except Defect Value :=
  match characters? bytes with
  | some cs => readChars room cs
  | none => .error .form

end Automation.Json
