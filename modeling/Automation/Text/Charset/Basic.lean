import Automation.Text.Charset.Dos
import Automation.Text.Charset.Ebcdic
import Automation.Text.Charset.Escaped
import Automation.Text.Charset.Iso
import Automation.Text.Charset.Mac
import Automation.Text.Charset.National
import Automation.Text.Charset.Shifted
import Automation.Text.Charset.Windows
import Automation.Text.Utf16
import Automation.Text.Utf7
import Automation.Text.Utf8

/-!
# Charsets

A charset turns bytes into text. `Charset.characters` reads a whole text and marks its ill-formed
parts, and `Charset.decode` writes U+FFFD for each of them, as a reader does that takes what comes
piece by piece; such a reader has to see the order of the bytes at the beginning of the text.
`Charset.ofName?` finds a charset by any of its registered names. Some names belong to conversions
that yield no text, or none piece by piece.
-/

set_option autoImplicit false

namespace Automation.Text

/-- Why a text cannot be read piece by piece. -/
inductive CharsetFault where
  /-- A text in units of this many bits does not tell the order of their bytes. -/
  | unmarked (bits : Nat)
  /-- Nothing can be read in the charset. -/
  | undefined
  /-- The charset has no place for ill-formed parts. -/
  | strict
  /-- The conversion turns bytes into bytes. -/
  | notText
  /-- The conversion turns text into text. -/
  | fromText
  deriving DecidableEq, Repr

/-- The wording of a fault. -/
def CharsetFault.message : CharsetFault → String
  | .unmarked bits => "UTF-" ++ toString bits ++ " stream does not start with BOM"
  | .undefined => "undefined encoding"
  | .strict => "Unsupported error handling replace"
  | .notText => ""
  | .fromText => "descriptor 'translate' for 'str' objects doesn't apply to a 'bytes' object"

/-- Charsets, and conversions that bear a name like one. -/
inductive Charset where
  | utf8
  /-- UTF-8 with a mark at its beginning. -/
  | marked8
  /-- UTF-16, whose mark tells the order of the bytes unless it is fixed. -/
  | utf16 (order : Option ByteOrder)
  /-- UTF-32, whose mark tells the order of the bytes unless it is fixed. -/
  | utf32 (order : Option ByteOrder)
  | utf7
  | table (t : ByteTable)
  | pairs (c : PairCharset)
  | shifts (c : ShiftCharset)
  /-- The charset in which tildes announce Chinese. -/
  | hz
  /-- A charset with escapes, the plain one or the one of a string between quotation marks. -/
  | escaped (isPlain : Bool)
  /-- A conversion that no text can be read with. -/
  | useless (f : CharsetFault)
  deriving DecidableEq, Repr

namespace Charset

/-- The tables of all charsets in which every character is one byte. -/
def tables : List ByteTable :=
  ByteTable.iso ++ ByteTable.windows ++ ByteTable.dos ++ ByteTable.macintosh ++
    ByteTable.ebcdic ++ ByteTable.national

/-- The other charsets, each with its own name and the other names under which it is registered, all
in lower case with `_` between words. A charset of a later edition is read like the first one. -/
def entries : List (Charset × String × List String) :=
  [(.utf8, "utf_8", ["cp65001", "u8", "utf", "utf8", "utf8_ucs2", "utf8_ucs4"]),
    (.marked8, "utf_8_sig", []),
    (.utf16 none, "utf_16", ["u16", "utf16"]),
    (.utf16 (some .littleEndian), "utf_16_le", ["unicodelittleunmarked", "utf_16le"]),
    (.utf16 (some .bigEndian), "utf_16_be", ["unicodebigunmarked", "utf_16be"]),
    (.utf32 none, "utf_32", ["u32", "utf32"]),
    (.utf32 (some .littleEndian), "utf_32_le", ["utf_32le"]),
    (.utf32 (some .bigEndian), "utf_32_be", ["utf_32be"]),
    (.utf7, "utf_7", ["u7", "unicode_1_1_utf_7", "utf7"]),
    (.pairs .shiftJis, "shift_jis", ["csshiftjis", "s_jis", "shiftjis", "sjis",
      "x_mac_japanese"]),
    (.pairs .shiftJis, "shift_jis_2004", ["s_jis_2004", "shiftjis2004", "sjis_2004"]),
    (.pairs .shiftJis, "shift_jisx0213", ["s_jisx0213", "shiftjisx0213", "sjisx0213"]),
    (.pairs .windows932, "cp932", ["932", "ms932", "ms_kanji", "mskanji"]),
    (.pairs .eucJp, "euc_jp", ["eucjp", "u_jis", "ujis"]),
    (.pairs .eucJp, "euc_jis_2004", ["euc_jis2004", "eucjis2004", "jisx0213"]),
    (.pairs .eucJp, "euc_jisx0213", ["eucjisx0213"]),
    (.pairs .gb2312, "gb2312", ["chinese", "csiso58gb231280", "euc_cn", "euccn", "eucgb2312_cn",
      "gb2312_1980", "gb2312_80", "iso_ir_58", "x_mac_simp_chinese"]),
    (.pairs .gbk, "gbk", ["936", "cp936", "ms936"]),
    (.pairs .gb18030, "gb18030", ["gb18030_2000"]),
    (.pairs .big5, "big5", ["big5_tw", "csbig5", "x_mac_trad_chinese"]),
    (.pairs .big5, "big5hkscs", ["big5_hkscs", "hkscs"]),
    (.pairs .windows950, "cp950", ["950", "ms950"]),
    (.pairs .eucKr, "euc_kr", ["euckr", "korean", "ks_c_5601", "ks_c_5601_1987", "ks_x_1001",
      "ksc5601", "ksx1001", "x_mac_korean"]),
    (.pairs .windows949, "cp949", ["949", "ms949", "uhc"]),
    (.pairs .johab, "johab", ["cp1361", "ms1361"]),
    (.escaped true, "raw_unicode_escape", []),
    (.escaped false, "unicode_escape", []),
    (.hz, "hz", ["hz_gb", "hz_gb_2312", "hzgb"]),
    (.useless .undefined, "undefined", []),
    (.useless .strict, "idna", []),
    (.useless .fromText, "rot_13", ["rot13"]),
    (.useless .notText, "base64_codec", ["base64", "base_64"]),
    (.useless .notText, "bz2_codec", ["bz2"]),
    (.useless .notText, "hex_codec", ["hex"]),
    (.useless .notText, "quopri_codec", ["quopri", "quoted_printable", "quotedprintable"]),
    (.useless .notText, "uu_codec", ["uu"]),
    (.useless .notText, "zlib_codec", ["zip", "zlib"])]

/-- The letters of a name in lower case, with one `_` for all that stands between two words. -/
def spelled (gap : Bool) : List Char → List Char
  | [] => []
  | c :: rest =>
    if c.isAlphanum || c == '.' then
      if gap then '_' :: c.toLower :: spelled false rest else c.toLower :: spelled false rest
    else spelled true rest

/-- The normal spelling of a name. -/
def normalName (name : String) : String :=
  String.ofList (spelled false (name.toList.dropWhile fun c => !(c.isAlphanum || c == '.')))

/-- The charset whose own name is given. -/
def named? (name : String) : Option Charset :=
  ((entries.find? fun (_, own, _) => own == name).map Prod.fst).or
    (((tables.find? fun t => t.names.contains name).map .table).or
      ((ShiftCharset.all.find? fun c => c.name == name).map .shifts))

/-- The charset registered under another name. -/
def registered? (name : String) : Option Charset :=
  ((entries.find? fun (_, _, aliases) => aliases.contains name).map Prod.fst).or
    (((tables.find? fun t => t.aliases.contains name).map .table).or
      ((ShiftCharset.all.find? fun c => c.aliases.contains name).map .shifts))

/-- The charset of a name. A point may stand between the words of a registered name. -/
def ofName? (name : String) : Option Charset :=
  let name := normalName name
  ((registered? name).or (registered? (name.replace "." "_"))).or (named? name)

/-- The characters of a whole text; `none` stands for an ill-formed part. -/
def characters : Charset → List UInt8 → Except CharsetFault (List (Option Char))
  | .utf8, bytes => .ok (decodeUtf8 false bytes)
  | .marked8, bytes => .ok (decodeUtf8 false (afterUtf8Mark bytes))
  | .utf16 (some order), bytes => .ok (decodeUtf16 false order bytes)
  | .utf16 none, bytes =>
    match ByteOrder.ofMark16? bytes with
    | some order => .ok (decodeUtf16 false order (bytes.drop 2))
    | none => .ok (decodeUtf16 false .littleEndian bytes)
  | .utf32 (some order), bytes => .ok (decodeUtf32 false order bytes)
  | .utf32 none, bytes =>
    match ByteOrder.ofMark32? bytes with
    | some order => .ok (decodeUtf32 false order (bytes.drop 4))
    | none => .ok (decodeUtf32 false .littleEndian bytes)
  | .utf7, bytes => .ok (Utf7.decode bytes)
  | .table t, bytes => .ok (t.decode bytes)
  | .pairs c, bytes => .ok (c.decode bytes)
  | .shifts c, bytes => .ok (c.decode bytes)
  | .hz, bytes => .ok (decodeHz bytes)
  | .escaped isPlain, bytes => .ok (decodeEscaped isPlain bytes)
  | .useless f, _ => .error f

/-- Why a text cannot be read piece by piece, if it cannot. -/
def fault? : Charset → List UInt8 → Option CharsetFault
  | .utf16 none, bytes =>
    if (ByteOrder.ofMark16? bytes).isNone && 2 ≤ bytes.length then some (.unmarked 16) else none
  | .utf32 none, bytes =>
    if (ByteOrder.ofMark32? bytes).isNone && 4 ≤ bytes.length then some (.unmarked 32) else none
  | _, _ => none

/-- Whether bytes are but the beginning of a mark. -/
def isPartOfMark (bytes : List UInt8) : Bool :=
  bytes.length < utf8Mark.length && bytes.isPrefixOf utf8Mark

/-- The text of bytes that come piece by piece, with U+FFFD for every ill-formed part. -/
def decode (c : Charset) (bytes : List UInt8) : Except CharsetFault String :=
  match bytes, c.fault? bytes with
  | [], _ => .ok ""
  | _, some f => .error f
  | _, none =>
    if c == .marked8 && isPartOfMark bytes then .ok ""
    else (c.characters bytes).map fun cs => String.ofList (cs.map (·.getD replacement))

/-- The text of bytes that are well-formed throughout. -/
def decodeAll? (c : Charset) (bytes : List UInt8) : Option String :=
  match c.characters bytes with
  | .ok cs => (cs.mapM id).map String.ofList
  | .error _ => none

end Charset

end Automation.Text
