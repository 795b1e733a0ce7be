import Automation.Text.Digit
import Automation.Text.Surrogate

/-!
# Charsets with escapes

In two charsets every byte is the character of its number, and a backslash begins an escape that
names another character. `decodeEscaped` reads both: the plain one knows only the escapes that give
a code point in hexadecimal, the other one also those of a string between quotation marks. A
character that is named in words is never found.
-/

set_option autoImplicit false

namespace Automation.Text

/-- The hexadecimal digits at the beginning of a text, at most `most` of them: their value and their
number. -/
def hexRun (value count : Nat) : (most : Nat) → List Nat → Nat × Nat
  | most + 1, b :: rest =>
    match hexDigit? (Char.ofNat b) with
    | some d => hexRun (16 * value + d) (count + 1) most rest
    | none => (value, count)
  | _, _ => (value, count)

/-- The octal digits at the beginning of a text, at most `most` of them: their value and their
number. -/
def octalRun (value count : Nat) : (most : Nat) → List Nat → Nat × Nat
  | most + 1, b :: rest =>
    if 0x30 ≤ b && b ≤ 0x37 then octalRun (8 * value + (b - 0x30)) (count + 1) most rest
    else (value, count)
  | _, _ => (value, count)

/-- What an escape stands for, and the number of bytes after its backslash. -/
structure Escape where
  chars : List (Option Char)
  length : Nat
  deriving DecidableEq, Repr

/-- The escape of a code point of so many hexadecimal digits, which follow a letter. -/
def codePointEscape (digits : Nat) (rest : List Nat) : Escape :=
  let (value, count) := hexRun 0 0 digits rest
  if count = digits && value < 0x110000 then ⟨[some (unitChar value)], digits + 1⟩
  else ⟨[none], count + 1⟩

/-- The escape of a name between braces, which follow a letter. -/
def nameEscape : List Nat → Escape
  | 0x7B :: 0x7D :: _ => ⟨[none], 2⟩
  | 0x7B :: rest => ⟨[none], 3 + (rest.takeWhile (· != 0x7D)).length⟩
  | _ => ⟨[none], 1⟩

/-- The characters that a letter after a backslash stands for. -/
def letterEscapes : List (Char × Char) :=
  [('\\', '\\'), ('\x27', '\x27'), ('"', '"'), ('b', '\x08'), ('f', '\x0c'), ('t', '\t'),
    ('n', '\n'), ('r', '\r'), ('v', '\x0b'), ('a', '\x07')]

/-- The escape in the text after a backslash. Where there is none, the backslash and the character
after it stand for themselves. -/
def escapeAfter (isPlain : Bool) : List Nat → Escape
  | [] => ⟨[if isPlain then some '\\' else none], 0⟩
  | b :: rest =>
    let c := Char.ofNat b
    if c = 'u' then codePointEscape 4 rest
    else if c = 'U' then codePointEscape 8 rest
    else if isPlain then ⟨[some '\\', some c], 1⟩
    else if c = '\n' then ⟨[], 1⟩
    else if c = 'x' then codePointEscape 2 rest
    else if c = 'N' then nameEscape rest
    else if 0x30 ≤ b && b ≤ 0x37 then
      let (value, count) := octalRun 0 0 3 (b :: rest)
      ⟨[some (Char.ofNat value)], count⟩
    else
      match letterEscapes.find? fun (letter, _) => letter == c with
      | some (_, meant) => ⟨[some meant], 1⟩
      | none => ⟨[some '\\', some c], 1⟩

/-- The characters of a text by the numbers of its bytes; `none` stands for an ill-formed part. -/
def decodeEscapedFrom (isPlain : Bool) : List Nat → List (Option Char)
  | [] => []
  | b :: rest =>
    if b = 0x5C then
      let escape := escapeAfter isPlain rest
      escape.chars ++ decodeEscapedFrom isPlain (rest.drop escape.length)
    else some (Char.ofNat b) :: decodeEscapedFrom isPlain rest
termination_by bytes => bytes.length
decreasing_by all_goals (simp only [List.length_drop, List.length_cons]; omega)

/-- The characters of a text; `none` stands for an ill-formed part. -/
def decodeEscaped (isPlain : Bool) (bytes : List UInt8) : List (Option Char) :=
  decodeEscapedFrom isPlain (bytes.map UInt8.toNat)

end Automation.Text
