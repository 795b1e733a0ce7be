import Automation.Text.Surrogate

/-!
# Byte tables

A charset in which every character is one byte is a table of 256 characters. Most tables begin with
the characters of ASCII and many go on with the control characters of the next 32 bytes, so only the
rest of them is listed. A byte for which a table has no character is unused.
-/

set_option autoImplicit false

namespace Automation.Text

/-- A charset in which every character is one byte. -/
structure ByteTable where
  /-- The names of the charset itself, in lower case with `_` between words. -/
  names : List String
  /-- The other names under which it is registered. -/
  aliases : List String
  /-- The characters of the bytes in order, U+FFFD for an unused byte. -/
  chars : String
  deriving DecidableEq, Repr

namespace ByteTable

/-- The characters of a range of code points. -/
def run (first count : Nat) : String :=
  String.ofList ((List.range count).map fun i => Char.ofNat (first + i))

/-- A table that begins with ASCII. -/
def afterAscii (names aliases : List String) (upper : String) : ByteTable :=
  ⟨names, aliases, run 0 0x80 ++ upper⟩

/-- A table that begins with ASCII and the control characters after it. -/
def afterControls (names aliases : List String) (upper : String) : ByteTable :=
  ⟨names, aliases, run 0 0xA0 ++ upper⟩

/-- The characters of bytes; `none` stands for an unused byte. -/
def decode (t : ByteTable) (bytes : List UInt8) : List (Option Char) :=
  let chars := t.chars.toList.toArray
  bytes.map fun b => chars[b.toNat]?.filter (· != replacement)

end ByteTable

end Automation.Text
