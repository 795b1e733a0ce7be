import Automation.Text.Charset.Big5
import Automation.Text.Charset.Gb18030
import Automation.Text.Charset.Gbk
import Automation.Text.Charset.Jis208
import Automation.Text.Charset.Jis212
import Automation.Text.Charset.Ksx1001
import Automation.Text.Charset.Windows932
import Automation.Text.Surrogate

/-!
# Charsets of pairs

In the charsets of East Asia a character of ASCII is one byte and most others are two, which name a
row and a cell of a table. `PairCharset.read` reads what stands at the beginning of a text: where no
character does, its first byte is ill-formed by itself, unless the text ends before the character
is whole.
-/

set_option autoImplicit false

namespace Automation.Text

/-- What stands at the beginning of a text: a character, or an ill-formed part, and its length. -/
structure Piece where
  char : Option Char
  length : Nat
  deriving DecidableEq, Repr

namespace Piece

/-- A byte that is ill-formed by itself. -/
def stray : Piece := ⟨none, 1⟩

/-- The character that so many bytes stand for; if they stand for none, the first is ill-formed. -/
def ofChar? (c : Option Char) (length : Nat) : Piece :=
  match c with
  | some c => ⟨some c, length⟩
  | none => stray

/-- The pieces of a text; `none` stands for an ill-formed part. -/
def readAll (read : List UInt8 → Piece) : List UInt8 → List (Option Char)
  | [] => []
  | b :: rest =>
    let piece := read (b :: rest)
    piece.char :: readAll read (rest.drop (piece.length - 1))
termination_by bytes => bytes.length
decreasing_by simp only [List.length_drop, List.length_cons]; omega

end Piece

namespace Cells

/-- The character in a cell, counted from zero like its row. -/
def char? (rows : List String) (row cell : Nat) : Option Char :=
  ((rows[row]?).bind fun s => s.toList[cell]?).filter (· != replacement)

/-- The character in the row and cell that two bytes from 0xA1 to 0xFE name. -/
def char94? (rows : List String) (a b : Nat) : Option Char :=
  if 0xA1 ≤ a && a ≤ 0xFE && 0xA1 ≤ b && b ≤ 0xFE then char? rows (a - 0xA1) (b - 0xA1) else none

/-! ## Japanese -/

/-- The row and cell that two bytes name when the rows lie in twos. -/
def shifted (a b : Nat) : Option (Nat × Nat) :=
  let row := 2 * (if a < 0xA0 then a - 0x81 else a - 0xC1)
  if !((0x81 ≤ a && a ≤ 0x9F) || (0xE0 ≤ a && a ≤ 0xFC)) then none
  else if 0x40 ≤ b && b ≤ 0x7E then some (row, b - 0x40)
  else if 0x80 ≤ b && b ≤ 0x9E then some (row, b - 0x41)
  else if 0x9F ≤ b && b ≤ 0xFC then some (row + 1, b - 0x9F)
  else none

/-- The cells of JIS X 0208 in which Windows has other characters. -/
def windowsJapanese : List ((Nat × Nat) × Char) :=
  [((0, 32), '～'), ((0, 33), '∥'), ((0, 60), '－'), ((0, 80), '￠'), ((0, 81), '￡'),
    ((1, 43), '￢')]

/-- The character that Windows has in a row and a cell. -/
def windows932? (row cell : Nat) : Option Char :=
  match windowsJapanese.find? fun (place, _) => place == (row, cell) with
  | some (_, c) => some c
  | none =>
    if row = 12 then char? windows13 0 cell
    else if 88 ≤ row && row < 92 then char? windows89 (row - 88) cell
    else if 94 ≤ row && row < 114 then some (Char.ofNat (0xE000 + 94 * (row - 94) + cell))
    else if 114 ≤ row then char? windows115 (row - 114) cell
    else char? jis208 row cell

/-- The small katakana and signs that are one byte. -/
def katakana? (b : Nat) : Option Char :=
  if 0xA1 ≤ b && b ≤ 0xDF then some (Char.ofNat (0xFF61 + (b - 0xA1))) else none

/-! ## Chinese -/

/-- The character that GBK has for two bytes. -/
def gbk? (a b : Nat) : Option Char :=
  if 0x81 ≤ a && 0x40 ≤ b && b ≤ 0xFE && b ≠ 0x7F then
    char? gbk (a - 0x81) (if b < 0x7F then b - 0x40 else b - 0x41)
  else none

/-- Whether GBK has filled a cell that is empty in GB 2312. -/
def isLater (a b : Nat) : Bool :=
  match a with
  | 0xA2 => 0xA1 ≤ b && b ≤ 0xAA
  | 0xA6 => 0xE0 ≤ b && b ≤ 0xF5
  | 0xA8 => 0xBB ≤ b && b ≤ 0xC0
  | _ => false

/-- The character that GB 2312 has for two bytes. -/
def gb2312? (a b : Nat) : Option Char :=
  if a = 0xA1 && b = 0xA4 then some '・'
  else if a = 0xA1 && b = 0xAA then some '―'
  else if 0xA1 ≤ a && a ≤ 0xF7 && 0xA1 ≤ b && !isLater a b then gbk? a b
  else none

/-- The code point that GB 18030 has for two bytes in an area that GBK leaves empty. -/
def area? (a b : Nat) : Option Nat :=
  if 0xAA ≤ a && a ≤ 0xAF && 0xA1 ≤ b && b ≤ 0xFE then
    some (0xE000 + 94 * (a - 0xAA) + (b - 0xA1))
  else if 0xF8 ≤ a && a ≤ 0xFE && 0xA1 ≤ b && b ≤ 0xFE then
    some (0xE234 + 94 * (a - 0xF8) + (b - 0xA1))
  else if 0xA1 ≤ a && a ≤ 0xA7 && 0x40 ≤ b && b ≤ 0xA0 && b ≠ 0x7F then
    some (0xE4C6 + 96 * (a - 0xA1) + (if b < 0x7F then b - 0x40 else b - 0x41))
  else none

/-- The code point that GB 18030 has for two bytes that GBK leaves empty. -/
def spare? (a b : Nat) : Option Nat :=
  let n := 256 * a + b
  ((spareRuns.find? fun r => r.first ≤ n && n ≤ r.last).map fun r => r.point + (n - r.first)).or
    (area? a b)

/-- The code point of a character of four bytes by its number. -/
def fourBytePoint (n : Nat) : Nat :=
  match (fourByteRuns.takeWhile fun r => r.1 ≤ n).getLast? with
  | some (first, point) => point + (n - first)
  | none => 0

/-- The character of four bytes. -/
def fourBytes? (a b c d : Nat) : Option Char :=
  let within (a c d : Nat) : Bool :=
    0x81 ≤ a && a ≤ 0xFE && 0x81 ≤ c && c ≤ 0xFE && 0x30 ≤ d && d ≤ 0x39
  let number (a : Nat) : Nat := (10 * a + (b - 0x30)) * 1260 + 10 * (c - 0x81) + (d - 0x30)
  if !within a c d then none
  else if a < 0x85 then
    let n := number (a - 0x81)
    if n < 39420 then some (Char.ofNat (fourBytePoint n)) else none
  else if 0x90 ≤ a then
    let n := 0x10000 + number (a - 0x90)
    if n < 0x110000 then some (Char.ofNat n) else none
  else none

/-- The character that Big5 has for two bytes. -/
def big5? (a b : Nat) : Option Char :=
  if 0xA1 ≤ a && 0x40 ≤ b && b ≤ 0x7E then char? big5 (a - 0xA1) (b - 0x40)
  else if 0xA1 ≤ a && 0xA1 ≤ b && b ≤ 0xFE then char? big5 (a - 0xA1) (b - 0x62)
  else none

/-- The pairs for which Windows has other characters than Big5. -/
def windowsChinese : List (Nat × Char) :=
  [(0xA145, '‧'), (0xA14E, '﹑'), (0xA1C2, '¯'), (0xA1E3, '～'), (0xA1F2, '⊕'), (0xA1F3, '⊙'),
    (0xA241, '∕'), (0xA242, '﹨'), (0xA244, '￥'), (0xA246, '￠'), (0xA247, '￡'), (0xA3E1, '€')]

/-- The character that Windows has for two bytes of Big5. -/
def windows950? (a b : Nat) : Option Char :=
  match windowsChinese.find? fun (n, _) => n == 256 * a + b with
  | some (_, c) => some c
  | none =>
    if a = 0xF9 && 0xD6 ≤ b && b ≤ 0xFE then char? windowsF9 0 (b - 0xD6) else big5? a b

/-! ## Korean -/

/-- The code point of a number among those from `first` on that are not in an increasing list. -/
def missing (number first : Nat) : List Nat → Nat
  | [] => first + number
  | known :: rest =>
    if first + number < known then first + number
    else missing (number - (known - first)) (known + 1) rest

/-- The syllable of a number among those that have no cell in KS X 1001. -/
def laterSyllable? (number : Nat) : Option Char :=
  let known := ((ksx1001.drop 15).take 25).flatMap fun row => row.toList.map Char.toNat
  let point := missing number 0xAC00 known
  if point ≤ 0xD7A3 then some (Char.ofNat point) else none

/-- How many later syllables come before those of a first byte. -/
def syllablesBefore (a : Nat) : Nat :=
  if a ≤ 0xA0 then 178 * (a - 0x81) else 178 * 32 + 84 * (a - 0xA1)

/-- The place of a second byte among those that a first byte takes for later syllables. -/
def syllablePlace? (a b : Nat) : Option Nat :=
  if 0x41 ≤ b && b ≤ 0x5A then some (b - 0x41)
  else if 0x61 ≤ b && b ≤ 0x7A then some (b - 0x61 + 26)
  else if 0x81 ≤ b && b ≤ 0xFE && (a ≤ 0xA0 || b ≤ 0xA0) then some (b - 0x81 + 52)
  else none

/-- The character that Windows has for two bytes in the cells of KS X 1001 and around them. -/
def windows949? (a b : Nat) : Option Char :=
  if a = 0xA4 && b = 0xD4 then some (Char.ofNat 0x3164)
  else
    (char94? ksx1001 a b).or
      (if 0x81 ≤ a && a ≤ 0xC6 then
        (syllablePlace? a b).bind fun place => laterSyllable? (syllablesBefore a + place)
      else none)

/-- The letters that begin a syllable. -/
def initials : List Char := "ㄱㄲㄴㄷㄸㄹㅁㅂㅃㅅㅆㅇㅈㅉㅊㅋㅌㅍㅎ".toList

/-- The letters that end a syllable. -/
def finals : List Char := "ㄱㄲㄳㄴㄵㄶㄷㄹㄺㄻㄼㄽㄾㄿㅀㅁㅂㅄㅅㅆㅇㅈㅊㅋㅌㅍㅎ".toList

/-- The syllable of three letters, given by their cells in the fourth row of KS X 1001. -/
def syllable? (first middle last : Nat) : Option Char := do
  let letter (b : Nat) : Option Char := char94? ksx1001 0xA4 b
  let i ← (letter first).bind fun c => initials.findIdx? (· == c)
  let j ← if 0xBF ≤ middle && middle ≤ 0xD3 then some (middle - 0xBF) else none
  let k ← if last = 0xD4 then some 0
    else (letter last).bind fun c => (finals.findIdx? (· == c)).map (· + 1)
  return Char.ofNat (0xAC00 + (i * 21 + j) * 28 + k)

/-! ### Johab -/

/-- The letter that begins a syllable, by five bits; `some none` stands for the lack of one. -/
def initial? (n : Nat) : Option (Option Nat) :=
  if n = 1 then some none else if 2 ≤ n && n ≤ 20 then some (some (n - 2)) else none

/-- The vowel of a syllable, by five bits; `some none` stands for the lack of one. -/
def vowel? (n : Nat) : Option (Option Nat) :=
  if n = 2 then some none
  else if n % 8 < 2 || n < 3 || 29 < n then none
  else some (some (n - 3 - 2 * (n / 8)))

/-- The letter that ends a syllable, by five bits; `some none` stands for the lack of one. -/
def final? (n : Nat) : Option (Option Nat) :=
  if n = 1 then some none
  else if 2 ≤ n && n ≤ 17 then some (some (n - 2))
  else if 19 ≤ n && n ≤ 29 then some (some (n - 3))
  else none

/-- The syllable or the single letter that two bytes name by three times five bits. -/
def johabSyllable? (a b : Nat) : Option Char :=
  match initial? (a / 4 % 32), vowel? ((a * 8 + b / 32) % 32), final? (b % 32) with
  | some none, some none, some none => some (Char.ofNat 0x3000)
  | some none, some none, some (some k) => finals[k]?
  | some none, some (some j), some none => some (Char.ofNat (0x314F + j))
  | some (some i), some none, some none => initials[i]?
  | some (some i), some (some j), some k =>
    some (Char.ofNat (0xAC00 + (i * 21 + j) * 28 + (k.map (· + 1)).getD 0))
  | _, _, _ => none

/-- The sign or the Chinese character that two bytes name by its row and cell in KS X 1001. -/
def johabSign? (a b : Nat) : Option Char :=
  if a ≤ 0xD8 || a = 0xDF || 0xF9 < a || b < 0x31 || (0x80 ≤ b && b < 0x91) || b % 0x80 = 0x7F ||
      (a = 0xDA && 0xA1 ≤ b && b ≤ 0xD3) then none
  else
    let row := if a < 0xE0 then 2 * (a - 0xD9) else 2 * a - 0x197
    let cell := if b < 0x91 then b - 0x31 else b - 0x43
    char? ksx1001 (row + cell / 94) (cell % 94)

/-- The character that Johab has for two bytes. -/
def johab? (a b : Nat) : Option Char := if a < 0xD8 then johabSyllable? a b else johabSign? a b

end Cells

/-- The charsets in which most characters are two bytes. -/
inductive PairCharset where
  | shiftJis
  | windows932
  | eucJp
  | gb2312
  | gbk
  | gb18030
  | big5
  | windows950
  | eucKr
  | windows949
  | johab
  deriving DecidableEq, Repr

namespace PairCharset

open Cells

/-- The character of one byte. -/
def single? : PairCharset → Nat → Option Char
  | .shiftJis, b => if b < 0x80 then some (Char.ofNat b) else katakana? b
  | .windows932, b =>
    if b ≤ 0x80 then some (Char.ofNat b)
    else if b = 0xA0 then some (Char.ofNat 0xF8F0)
    else if 0xFD ≤ b then some (Char.ofNat (0xF8F1 + (b - 0xFD)))
    else katakana? b
  | _, b => if b < 0x80 then some (Char.ofNat b) else none

/-- The character of two bytes. -/
def pair? : PairCharset → Nat → Nat → Option Char
  | .shiftJis, a, b => (shifted a b).bind fun (row, cell) => char? jis208 row cell
  | .windows932, a, b => (shifted a b).bind fun (row, cell) => windows932? row cell
  | .eucJp, a, b => if a = 0x8E then katakana? b else char94? jis208 a b
  | .gb2312, a, b => gb2312? a b
  | .gbk, a, b => gbk? a b
  | .gb18030, a, b => (gbk? a b).or ((spare? a b).map Char.ofNat)
  | .big5, a, b => big5? a b
  | .windows950, a, b => windows950? a b
  | .eucKr, a, b => char94? ksx1001 a b
  | .windows949, a, b => windows949? a b
  | .johab, a, b => johab? a b

/-- What stands at the beginning of a text in bytes that make more than a pair; `none` when they
make a pair at most. -/
def long? : PairCharset → List Nat → Option Piece
  | .eucJp, 0x8F :: a :: b :: _ => some (.ofChar? (char94? jis212 a b) 3)
  | .eucJp, 0x8F :: rest => some ⟨none, rest.length + 1⟩
  | .gb18030, a :: b :: rest =>
    if 0x30 ≤ b && b ≤ 0x39 then
      match rest with
      | c :: d :: _ => some (.ofChar? (fourBytes? a b c d) 4)
      | _ => some ⟨none, rest.length + 2⟩
    else none
  | .eucKr, 0xA4 :: 0xD4 :: rest =>
    match rest with
    | a :: i :: b :: j :: c :: k :: _ =>
      some (if a = 0xA4 && b = 0xA4 && c = 0xA4 then .ofChar? (syllable? i j k) 8 else .stray)
    | _ => some ⟨none, rest.length + 2⟩
  | _, _ => none

/-- What stands at the beginning of a text. -/
def read (c : PairCharset) (bytes : List UInt8) : Piece :=
  match (bytes.take 8).map UInt8.toNat with
  | [] => .stray
  | a :: rest =>
    match c.single? a, c.long? (a :: rest), rest with
    | some char, _, _ => ⟨some char, 1⟩
    | none, some piece, _ => piece
    | none, none, b :: _ => .ofChar? (c.pair? a b) 2
    | none, none, [] => .stray

/-- The characters of a text; `none` stands for an ill-formed part. -/
def decode (c : PairCharset) (bytes : List UInt8) : List (Option Char) := Piece.readAll c.read bytes

end PairCharset

end Automation.Text
