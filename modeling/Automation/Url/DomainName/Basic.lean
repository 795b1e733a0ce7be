import Automation.Text.LetterCase
import Automation.Url.DomainName.Marks
import Automation.Url.DomainName.Table
import Automation.Url.Punycode

/-!
# Domain names

A domain name beyond ASCII is written in ASCII label by label. `isLabel` says which texts are
labels: they are composed, hold only letters, digits, marks and hyphens in small case, begin with no
mark, have their hyphens in the right places, join letters only where letters join, and are written
in one direction. `DomainName.ascii?` gives the name in ASCII, if it is one.
-/

set_option autoImplicit false

namespace Automation.Url.DomainName

open Automation.Text

/-! ## Characters -/

/-- Whether a character may stand anywhere in a label. -/
def isLabelChar (c : Char) : Bool :=
  CodeRange.covers labelRanges c.toNat && LetterCase.lowerChar c == [c]

/-- Whether a character is a mark that takes up no place of its own. -/
def isPlainMark (c : Char) : Bool := CodeRange.covers plainMarkRanges c.toNat

/-- Whether a character is a mark. -/
def isMark (c : Char) : Bool := isPlainMark c || CodeRange.covers spacingMarkRanges c.toNat

/-- The class of a mark, zero for every other character. -/
def markClass (c : Char) : Nat :=
  ((markClasses.find? fun r => r.first ≤ c.toNat && c.toNat ≤ r.last).map MarkClass.order).getD 0

/-- The class of the marks that take the vowel from the letter before them. -/
def vowelKiller : Nat := 9

/-- How a character takes part in the direction of a label. -/
inductive Direction where
  | left
  | right
  | number
  | arabicNumber
  | mark
  | neutral
  deriving DecidableEq, Repr

/-- The direction of a character. -/
def direction (c : Char) : Direction :=
  let n := c.toNat
  if ('0' ≤ c && c ≤ '9') || (0x6F0 ≤ n && n ≤ 0x6F9) then .number
  else if (0x660 ≤ n && n ≤ 0x669) || (0x10D30 ≤ n && n ≤ 0x10D39) then .arabicNumber
  else if n = 0x2D || n = 0xB7 || n = 0x375 || n = 0x30FB || n = 0x200C || n = 0x200D then .neutral
  else if n = 0x5F3 || n = 0x5F4 then .right
  else if CodeRange.covers hebrewDirectionRanges n || CodeRange.covers arabicDirectionRanges n then
    .right
  else if isPlainMark c then .mark
  else if CodeRange.covers neutralRanges n then .neutral
  else .left

/-! ## Labels -/

/-- Whether a mark makes one character with a letter. -/
def composes (letter mark : Char) : Bool :=
  compositions.any fun (m, letters) => m == mark.toNat && letters.contains letter.toNat

/-- Whether the marks after the last letter, up to one of class `last`, are followed only by marks
in order that make no further character with it. -/
def isComposedAfter (letter : Option Char) (last : Nat) : List Char → Bool
  | [] => true
  | c :: rest =>
    let order := markClass c
    let free := last = 0 || last < order
    if order ≠ 0 && order < last then false
    else if free && letter.any fun l => composes l c then false
    else isComposedAfter (if order = 0 then some c else letter) order rest

/-- Whether no mark of a label makes one character with its letter, and all are in order. -/
def isComposed (label : List Char) : Bool := isComposedAfter none 0 label

/-- Whether the hyphens of a label are in the right places. -/
def hasGoodHyphens (label : List Char) : Bool :=
  label.head? != some '-' && label.getLast? != some '-' &&
    (label.drop 2).take 2 != ['-', '-']

/-- Whether the nearest character that is no plain mark has a property. -/
def nearest (p : Nat → Bool) (cs : List Char) : Bool :=
  ((cs.dropWhile isPlainMark).head?).any fun c => p c.toNat

/-- Whether a letter joins the one after it. -/
def joinsAfter (n : Nat) : Bool :=
  CodeRange.covers joinedBothRanges n || CodeRange.covers joinedAfterRanges n

/-- Whether a letter joins the one before it. -/
def joinsBefore (n : Nat) : Bool :=
  CodeRange.covers joinedBothRanges n || CodeRange.covers joinedBeforeRanges n

/-- Whether a character may stand between `before`, which holds what precedes it in the label,
nearest first, and `after`. -/
def fits (before : List Char) (c : Char) (after : List Char) : Bool :=
  let label := before.reverse ++ c :: after
  let followsKiller := before.head?.any fun b => markClass b == vowelKiller
  match c.toNat with
  | 0x200C => followsKiller || (nearest joinsAfter before && nearest joinsBefore after)
  | 0x200D => followsKiller
  | 0xB7 => before.head? == some 'l' && after.head? == some 'l'
  | 0x375 => after.head?.any fun a => CodeRange.covers greekRanges a.toNat
  | 0x5F3 | 0x5F4 => before.head?.any fun b => CodeRange.covers hebrewRanges b.toNat
  | 0x30FB => label.any fun d => d != c && CodeRange.covers japaneseRanges d.toNat
  | n =>
    if 0x660 ≤ n && n ≤ 0x669 then
      !label.any fun d => 0x6F0 ≤ d.toNat && d.toNat ≤ 0x6F9
    else if 0x6F0 ≤ n && n ≤ 0x6F9 then
      !label.any fun d => 0x660 ≤ d.toNat && d.toNat ≤ 0x669
    else isLabelChar c

/-- Whether all characters after `before` may stand where they are. -/
def allFit : (before : List Char) → List Char → Bool
  | _, [] => true
  | before, c :: rest => fits before c rest && allFit (c :: before) rest

/-- Whether a label is written in one direction. One with no letters from right to left is. -/
def hasOneDirection (label : List Char) : Bool :=
  let all := label.map direction
  let isTurned := all.any fun d => d == .right || d == .arabicNumber
  let last := (all.reverse.dropWhile (· == .mark)).head?
  !isTurned ||
    (all.head? == some .right && !all.contains .left &&
      last.any (fun d => d == .right || d == .number || d == .arabicNumber) &&
      !(all.contains .number && all.contains .arabicNumber))

/-- Whether a text is a label. -/
def isLabel (label : List Char) : Bool :=
  !label.isEmpty && label.length ≤ 254 && isComposed label && hasGoodHyphens label &&
    !(label.head?.any isMark) && allFit [] label && hasOneDirection label

/-! ## Names -/

/-- What a label in ASCII begins with when it stands for another one. -/
def mark : List Char := "xn--".toList

/-- Whether a text in ASCII stands for a label beyond it. -/
def isMarked (label : List Char) : Bool :=
  mark.isPrefixOf label && mark.length < label.length && label.getLast? != some '-'

/-- A label in ASCII. -/
def asciiLabel? (label : List Char) : Option (List Char) :=
  let isAscii := label.all fun c => c.toNat < 0x80
  let written := if isAscii then label else mark ++ Punycode.encode label
  if ((isAscii && isMarked label) || isLabel label) && written.length ≤ 63 then some written
  else none

/-- Characters that stand between labels. -/
def isDot (c : Char) : Bool := [0x2E, 0x3002, 0xFF0E, 0xFF61].contains c.toNat

/-- The labels of a name. -/
def labels : List Char → List (List Char)
  | [] => [[]]
  | c :: rest =>
    match labels rest with
    | first :: others => if isDot c then [] :: first :: others else (c :: first) :: others
    | [] => [[]]

/-- A name in small letters, written in ASCII. The last label may be empty. -/
def ascii? (name : String) : Option String := do
  let parts := labels name.toList
  let isRooted := 1 < parts.length && parts.getLast? == some []
  let parts := if isRooted then parts.dropLast else parts
  let written ← parts.mapM asciiLabel?
  let whole := List.intercalate ['.'] (if isRooted then written ++ [[]] else written)
  if whole.length ≤ (if isRooted then 254 else 253) then some (String.ofList whole) else none

end Automation.Url.DomainName
