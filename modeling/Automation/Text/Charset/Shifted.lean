import Automation.Text.Charset.Iso
import Automation.Text.Charset.Pairs

/-!
# Charsets with shifts

Some charsets use the bytes of ASCII alone, and announce by a sequence of bytes what the bytes after
it mean. The reader of such a text keeps what was announced last. `ShiftCharset.decode` reads the
charsets of the family of ISO 2022, and `decodeHz` the one in which tildes announce Chinese.
-/

set_option autoImplicit false

namespace Automation.Text

open Cells

/-- What bytes mean. -/
inductive Meaning where
  | ascii
  /-- The Latin half of JIS X 0201. -/
  | latin
  /-- The katakana half of JIS X 0201. -/
  | katakana
  | jis208
  | jis212
  | gb2312
  | ksx1001
  /-- The upper half of ISO 8859-1. -/
  | western
  /-- The upper half of ISO 8859-7 as it was first, without its later signs. -/
  | greek
  deriving DecidableEq, Repr

namespace Meaning

/-- How many bytes make a character. -/
def width : Meaning → Nat
  | .ascii | .latin | .katakana | .western | .greek => 1
  | _ => 2

/-- The character of two bytes. -/
def pair? : Meaning → Nat → Nat → Option Char
  | .jis208, a, b => char94? Cells.jis208 (a + 0x80) (b + 0x80)
  | .jis212, a, b => char94? Cells.jis212 (a + 0x80) (b + 0x80)
  | .gb2312, a, b => if b < 0x80 then gb2312? (a + 0x80) (b + 0x80) else none
  | .ksx1001, a, b => char94? Cells.ksx1001 (a + 0x80) (b + 0x80)
  | _, _, _ => none

/-- The character of one byte. -/
def single? : Meaning → Nat → Option Char
  | .latin, b => some (if b = 0x5C then '¥' else if b = 0x7E then '‾' else Char.ofNat b)
  | .katakana, b => katakana? (b + 0x80)
  | .western, _ | .greek, _ => none
  | _, b => some (Char.ofNat b)

/-- The upper half of a charset in which every character is one byte. -/
def upper? (name : String) (b : Nat) : Option Char :=
  ((ByteTable.iso.find? fun t => t.names.contains name).bind fun t =>
    (t.decode [UInt8.ofNat (b % 0x80 + 0x80)]).head?).join

/-- The character of one byte after the sign that it alone means something else. -/
def alone? : Meaning → Nat → Option Char
  | .western, b => if b < 0x80 then upper? "latin_1" b else none
  | .greek, b =>
    if 0x80 ≤ b then some (Char.ofNat (b - 0x80))
    else if [0x24, 0x25, 0x2A].contains b then none
    else upper? "iso8859_7" b
  | _, b => if b < 0x80 then some (Char.ofNat b) else none

end Meaning

/-- A charset of the family of ISO 2022: the meanings it knows, each with the byte that announces
it, whether a shift alone changes the meaning, and whether a sign can change that of one byte. -/
structure ShiftCharset where
  name : String
  aliases : List String
  meanings : List (Char × Meaning)
  hasShift : Bool
  hasSign : Bool
  deriving DecidableEq, Repr

namespace ShiftCharset

/-- The meanings in the plainest charset for Japanese. -/
def japanese : List (Char × Meaning) := [('B', .jis208), ('@', .jis208), ('J', .latin)]

/-- The charsets of the family. Those of a later edition are read like the earlier ones. -/
def all : List ShiftCharset :=
  [⟨"iso2022_jp", ["csiso2022jp", "iso2022jp", "iso_2022_jp"], japanese, false, false⟩,
    ⟨"iso2022_jp_1", ["iso2022jp_1", "iso_2022_jp_1"], japanese ++ [('D', .jis212)], false, false⟩,
    ⟨"iso2022_jp_3", ["iso2022jp_3", "iso_2022_jp_3"], japanese ++ [('D', .jis212)], false, false⟩,
    ⟨"iso2022_jp_2004", ["iso2022jp_2004", "iso_2022_jp_2004"], japanese ++ [('D', .jis212)],
      false, false⟩,
    ⟨"iso2022_jp_2", ["iso2022jp_2", "iso_2022_jp_2"],
      japanese ++ [('D', .jis212), ('C', .ksx1001), ('A', .gb2312), ('A', .western),
        ('F', .greek)], false, true⟩,
    ⟨"iso2022_jp_ext", ["iso2022jp_ext", "iso_2022_jp_ext"],
      japanese ++ [('D', .jis212), ('I', .katakana)], false, false⟩,
    ⟨"iso2022_kr", ["csiso2022kr", "iso2022kr", "iso_2022_kr"], [('C', .ksx1001)], true, false⟩]

/-- What has been announced: the meaning of bytes without a shift, with one and after a sign,
whether there is a shift now, and whether an unknown sequence has not ended yet. -/
structure State where
  plain : Meaning
  shifted : Meaning
  signed : Meaning
  isShifted : Bool
  isPassing : Bool
  deriving DecidableEq, Repr

/-- Bytes with which a sequence ends. -/
def isEnd (b : Nat) : Bool := (0x41 ≤ b && b ≤ 0x5A) || b == 0x40

/-- The length of the sequence at the beginning of a text, if it is at most sixteen bytes. A prefix
may stand before another escape in it. -/
def sequenceLength? (hasPrefix : Bool) (bytes : List Nat) : Option Nat :=
  if hasPrefix && [0x1B, 0x26, 0x40, 0x1B].isPrefixOf bytes then
    ((bytes.take 16).drop 4).findIdx? isEnd |>.map (· + 5)
  else ((bytes.take 16).drop 1).findIdx? isEnd |>.map (· + 2)

/-- The meaning that a byte announces for characters of a width. -/
def meaning? (c : ShiftCharset) (isPair : Bool) (b : Nat) : Option Meaning :=
  if !isPair && b = 0x42 then some .ascii
  else
    (c.meanings.find? fun (mark, m) => mark.toNat == b && (m.width == 2) == isPair).map Prod.snd

/-- The state after a whole sequence, if it announces anything. -/
def announce? (c : ShiftCharset) (s : State) : List Nat → Option State
  | [_, 0x24, b] | [_, 0x24, 0x28, b] => (c.meaning? true b).map fun m => { s with plain := m }
  | [_, 0x24, 0x29, b] => (c.meaning? true b).map fun m => { s with shifted := m }
  | [_, 0x28, b] => (c.meaning? false b).map fun m => { s with plain := m }
  | [_, 0x29, b] => (c.meaning? false b).map fun m => { s with shifted := m }
  | [_, 0x2E, b] =>
    if c.hasSign then (c.meaning? false b).map fun m => { s with signed := m } else none
  | [_, 0x26, 0x40, 0x1B, 0x24, 0x42] => (c.meaning? true 0x42).map fun m => { s with plain := m }
  | _ => none

/-- A byte that begins a sequence of the family. -/
def isIntroducer (b : Nat) : Bool := [0x28, 0x29, 0x24, 0x2E, 0x26].contains b

/-- One step of the reader: what it reads, or nothing for bytes that only announce, how many bytes
that takes, and what is announced after it. -/
def step (c : ShiftCharset) (s : State) (bytes : List Nat) :
    List (Option Char) × Nat × State :=
  let all := bytes.length
  match bytes with
  | [] => ([], 1, s)
  | 0x1B :: rest =>
    if s.isPassing then ([some (Char.ofNat 0x1B)], 1, s)
    else
      match rest with
      | [] => ([none], 1, s)
      | b :: _ =>
        if c.hasSign && b = 0x4E then
          match rest.tail with
          | [] => ([none], all, s)
          | d :: _ => ([s.signed.alone? d], 3, s)
        else if !isIntroducer b then ([some (Char.ofNat 0x1B)], 1, { s with isPassing := true })
        else
          match sequenceLength? (!c.hasShift) bytes with
          | none => if all < 16 then ([none], all, s) else ([none], 1, s)
          | some n =>
            match c.announce? s (bytes.take n) with
            | some s => ([], n, s)
            | none => ([none], n, s)
  | b :: rest =>
    let char := some (Char.ofNat b)
    if s.isPassing then ([char], 1, { s with isPassing := !isEnd b })
    else if b = 0x0A then ([char], 1, { s with isShifted := false })
    else if c.hasShift && b = 0x0F then ([], 1, { s with isShifted := false })
    else if c.hasShift && b = 0x0E then ([], 1, { s with isShifted := true })
    else if b < 0x20 then ([char], 1, s)
    else if 0x80 ≤ b then ([none], 1, s)
    else
      let m := if s.isShifted then s.shifted else s.plain
      if m.width = 1 then ([m.single? b], 1, s)
      else
        match rest with
        | [] => ([none], 1, s)
        | d :: _ => ([m.pair? b d], 2, s)

/-- The characters of a text from a state on. -/
def decodeFrom (c : ShiftCharset) (s : State) : List Nat → List (Option Char)
  | [] => []
  | b :: rest =>
    let (chars, length, s) := c.step s (b :: rest)
    chars ++ decodeFrom c s (rest.drop (length - 1))
termination_by bytes => bytes.length
decreasing_by simp only [List.length_drop, List.length_cons]; omega

/-- The characters of a text; `none` stands for an ill-formed part. -/
def decode (c : ShiftCharset) (bytes : List UInt8) : List (Option Char) :=
  c.decodeFrom ⟨.ascii, .ascii, .ascii, false, false⟩ (bytes.map UInt8.toNat)

end ShiftCharset

/-! ## Tildes -/

/-- The characters of a text in which `~\x7b` announces pairs of GB 2312 and `~\x7d` ends them. -/
def decodeHzFrom : (isPaired : Bool) → List Nat → List (Option Char)
  | _, [] => []
  | _, [0x7E] => [none]
  | false, 0x7E :: 0x7E :: rest => some '~' :: decodeHzFrom false rest
  | false, 0x7E :: 0x7B :: rest => decodeHzFrom true rest
  | false, 0x7E :: 0x0A :: rest => decodeHzFrom false rest
  | true, 0x7E :: 0x7D :: rest => decodeHzFrom false rest
  | isPaired, 0x7E :: rest => none :: decodeHzFrom isPaired rest
  | isPaired, b :: rest =>
    if 0x80 ≤ b then none :: decodeHzFrom isPaired rest
    else if !isPaired then some (Char.ofNat b) :: decodeHzFrom false rest
    else
      match rest with
      | [] => [none]
      | d :: rest' =>
        match Meaning.gb2312.pair? b d with
        | some c => some c :: decodeHzFrom true rest'
        | none => none :: decodeHzFrom true (d :: rest')
termination_by _ bytes => bytes.length
decreasing_by all_goals (simp only [List.length_cons]; omega)

/-- The characters of a text in which tildes announce Chinese. -/
def decodeHz (bytes : List UInt8) : List (Option Char) := decodeHzFrom false (bytes.map UInt8.toNat)

end Automation.Text
