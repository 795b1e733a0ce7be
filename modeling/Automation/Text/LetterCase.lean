import Automation.Text.LetterCase.Table

/-!
# Full lower and upper case mappings

`lower` and `upper` map a whole text by the full, language-independent case mappings of Unicode:
a character may become several, and a capital sigma that ends a word becomes the final small sigma.
A sigma ends a word when the nearest character before it that is not case-ignorable is cased and
the nearest such character after it is not.
-/

set_option autoImplicit false

namespace Automation.Text

namespace LetterCase

/-- The image of a code point under a table of shifts in increasing order, if a row covers it. -/
def Shift.shifted? : List Shift → Nat → Option Nat
  | [], _ => none
  | r :: rest, c =>
    if c < r.first then none
    else if c ≤ r.last ∧ (c - r.first) % r.step = 0 then some ((c : Int) + r.shift).toNat
    else shifted? rest c

/-- The image of a character under one case mapping: its expansion, its shifted code point, or the
character itself. -/
def image (shifts : List Shift) (expansions : List Expansion) (c : Char) : List Char :=
  match Shift.shifted? shifts c.toNat with
  | some n => [Char.ofNat n]
  | none =>
    match expansions.find? fun e => e.source == c.toNat with
    | some e => e.image.map Char.ofNat
    | none => [c]

/-- Lower case image of a character outside any context. -/
def lowerChar (c : Char) : List Char := image lowerShifts lowerExpansions c

/-- Upper case image of a character. -/
def upperChar (c : Char) : List Char := image upperShifts upperExpansions c

/-- Letters that have, or are, a case variant. -/
def isCased (c : Char) : Bool := CodeRange.covers casedRanges c.toNat

/-- Characters that the rule for final sigma looks through. -/
def isCaseIgnorable (c : Char) : Bool := CodeRange.covers caseIgnorableRanges c.toNat

/-- Whether the first character that is not case-ignorable is cased. -/
def nextIsCased (cs : List Char) : Bool :=
  match cs.dropWhile isCaseIgnorable with
  | [] => false
  | c :: _ => isCased c

/-- Lower case of the characters after `before`, which holds what precedes them, nearest first. -/
def lowerAfter : (before : List Char) → List Char → List Char
  | _, [] => []
  | before, c :: rest =>
    (if c = 'Σ' then [if nextIsCased before && !nextIsCased rest then 'ς' else 'σ']
     else lowerChar c) ++ lowerAfter (c :: before) rest

end LetterCase

/-- The text in lower case. -/
def lower (s : String) : String :=
  String.ofList (LetterCase.lowerAfter [] s.toList)

/-- The text in upper case. -/
def upper (s : String) : String :=
  String.ofList (s.toList.flatMap LetterCase.upperChar)

end Automation.Text
