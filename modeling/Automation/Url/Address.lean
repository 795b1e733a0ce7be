import Automation.Text.Digit

/-!
# Numeric addresses

A host may be an address in numbers: four of them in decimal with points between, or eight in
hexadecimal with colons between, of which a run of zeros may be left out once. A host that merely
looks like four numbers has to be such an address.
-/

set_option autoImplicit false

namespace Automation.Url

open Automation.Text

/-- Whether a character is an ASCII decimal digit. -/
def isDigit (c : Char) : Bool := (asciiDigit? c).isSome

/-- The number of a part of an address in decimal: at most 255, without needless zeros. -/
def octet? (s : String) : Option Nat :=
  let cs := s.toList
  if cs.isEmpty || 3 < cs.length || (cs.head? == some '0' && cs.length != 1) then none
  else
    (cs.foldlM (fun n c => (asciiDigit? c).map (10 * n + ·)) 0).filter fun n : Nat => n ≤ 255

/-- Whether a text is an address of four decimal numbers. -/
def isAddress4 (s : String) : Bool :=
  let parts := s.splitOn "."
  parts.length == 4 && parts.all fun p => (octet? p).isSome

/-- How far four runs of digits with any character between each two of them have been read: an even
number stands before a run and the odd one after it inside the run. -/
def digitRunsStep (c : Char) (places : List Nat) : List Nat :=
  (List.range 8).filter fun next =>
    places.any fun place =>
      (isDigit c && next == (if place % 2 = 0 then place + 1 else place)) ||
        (place % 2 == 1 && next == place + 1)

/-- Whether a text looks like four decimal numbers with any character between each two of them. -/
def looksLikeAddress4 (s : String) : Bool :=
  (s.toList.foldl (fun places c => digitRunsStep c places) [0]).contains 7

/-- Whether a text is a part of an address in hexadecimal. -/
def isHextet (s : String) : Bool :=
  !s.isEmpty && s.length ≤ 4 && s.toList.all fun c => (hexDigit? c).isSome

/-- Whether parts are the parts of an address of eight hexadecimal numbers. An empty part that is
neither the first nor the last stands for the zeros left out; the first and the last part may be
empty only beside it. -/
def areHextets (parts : List String) : Bool :=
  let inner := parts.tail.dropLast
  match inner.findIdx? String.isEmpty with
  | some i =>
    let front := parts.take (i + 1)
    let back := parts.drop (i + 2)
    let front := if front = [""] then [] else front
    let back := if back = [""] then [] else back
    front.length + back.length < 8 && front.all isHextet && back.all isHextet
  | none => parts.length == 8 && parts.all isHextet

/-- Whether a text is an address of eight hexadecimal numbers. The last two may be written as four
decimal ones. -/
def isHexAddress (s : String) : Bool :=
  let parts := s.splitOn ":"
  let last := parts.getLast?.getD ""
  if parts.length < 3 then false
  else if last.toList.contains '.' then
    isAddress4 last && areHextets (parts.dropLast ++ ["0", "0"])
  else areHextets parts

/-- Whether a text is an address of eight hexadecimal numbers, with the name of a scope after a
percent sign or without. -/
def isAddress6 (s : String) : Bool :=
  if s.toList.contains '/' then false
  else
    match s.splitOn "%" with
    | [address] => isHexAddress address
    | [address, scope] => !scope.isEmpty && isHexAddress address
    | _ => false

end Automation.Url
