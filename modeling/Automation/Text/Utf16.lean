import Automation.Text.Surrogate

/-!
# UTF-16 and UTF-32

Texts in code units of two or four bytes, in either order of the bytes. Half of a surrogate pair
that stands alone is ill-formed unless the reader chooses to take it for a character, and so are
the bytes at the end that make no whole unit. `ByteOrder.ofMark16?` and `ByteOrder.ofMark32?` find
the order of a text that begins with the mark U+FEFF.
-/

set_option autoImplicit false

namespace Automation.Text

/-- The order of the bytes of a code unit. -/
inductive ByteOrder where
  | littleEndian
  | bigEndian
  deriving DecidableEq, Repr

/-- The value of the bytes of a code unit. -/
def ByteOrder.value (order : ByteOrder) (bytes : List UInt8) : Nat :=
  let bytes := match order with
    | .littleEndian => bytes.reverse
    | .bigEndian => bytes
  bytes.foldl (fun n b => 256 * n + b.toNat) 0

/-- Whether a list ends with bytes that make no whole unit, and the units before them. -/
def units16 (order : ByteOrder) : List UInt8 → List Nat × Bool
  | a :: b :: rest =>
    let (units, odd) := units16 order rest
    (order.value [a, b] :: units, odd)
  | [_] => ([], true)
  | [] => ([], false)

/-- What stands for half of a pair. -/
def halfChar (halves : Bool) (n : Nat) : Option Char := if halves then some (unitChar n) else none

/-- The characters of units of two bytes; `none` stands for an ill-formed part. A first half at the
very end is one ill-formed part together with an odd byte after it. -/
def decodeUnits16 (halves odd : Bool) : List Nat → List (Option Char)
  | [] => if odd then [none] else []
  | [u] =>
    if isHighHalf u then if halves && odd then [halfChar halves u, none] else [halfChar halves u]
    else
      (if isLowHalf u then halfChar halves u else some (unitChar u)) :: if odd then [none] else []
  | u :: v :: rest =>
    if isHighHalf u && isLowHalf v then some (pairChar u v) :: decodeUnits16 halves odd rest
    else
      (if isHalf u then halfChar halves u else some (unitChar u)) ::
        decodeUnits16 halves odd (v :: rest)

/-- The characters of a text in UTF-16. -/
def decodeUtf16 (halves : Bool) (order : ByteOrder) (bytes : List UInt8) : List (Option Char) :=
  let (units, odd) := units16 order bytes
  decodeUnits16 halves odd units

/-- The character of a unit of four bytes. -/
def unit32? (halves : Bool) (n : Nat) : Option Char :=
  if isHalf n then halfChar halves n else if n < 0x110000 then some (Char.ofNat n) else none

/-- The characters of a text in UTF-32. -/
def decodeUtf32 (halves : Bool) (order : ByteOrder) : List UInt8 → List (Option Char)
  | a :: b :: c :: d :: rest =>
    unit32? halves (order.value [a, b, c, d]) :: decodeUtf32 halves order rest
  | [] => []
  | _ => [none]

namespace ByteOrder

/-- The order of the bytes in a text that begins with the mark of UTF-16. -/
def ofMark16? : List UInt8 → Option ByteOrder
  | 0xFF :: 0xFE :: _ => some .littleEndian
  | 0xFE :: 0xFF :: _ => some .bigEndian
  | _ => none

/-- The order of the bytes in a text that begins with the mark of UTF-32. -/
def ofMark32? : List UInt8 → Option ByteOrder
  | 0xFF :: 0xFE :: 0 :: 0 :: _ => some .littleEndian
  | 0 :: 0 :: 0xFE :: 0xFF :: _ => some .bigEndian
  | _ => none

end ByteOrder

end Automation.Text
