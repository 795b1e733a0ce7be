import Automation.Number.Literal
import Automation.Text.Quoted
import Automation.Url.Address
import Automation.Url.DomainName.Basic
import Automation.Url.Escape
import Automation.Url.Path

/-!
# Addresses of resources

An address has a scheme, a user, a host, a port, a path, a query and a fragment, all of which may be
missing. `Url.parse` reads one into its normal form: scheme and host in small letters, the port only
where it is not the usual one, the path without segments made of points, and every character that
may not stand written as an escape. `Url.merge` finds a place relative to another address.
-/

set_option autoImplicit false

namespace Automation

open Text

/-- An address of a resource. -/
structure Url where
  /-- The scheme, empty when there is none. -/
  scheme : String
  /-- The user and perhaps a password, empty when there are none. -/
  user : String
  /-- The host, empty when there is none. -/
  host : String
  port : Option Int
  path : String
  query : Option String
  fragment : Option String
  deriving DecidableEq, Repr

/-- Why a text is no address. -/
inductive UrlDefect where
  | length
  | control (c : Char) (position : Nat)
  | address4 (host : String)
  | address6 (host : String)
  | domainName (host : String)
  | port (text : String)
  /-- A path after a host does not begin with a slash. -/
  | noSlash
  /-- A path without a host begins with a text that would be read as something else. -/
  | beginning (text : String)
  | partLength (part : String)
  deriving DecidableEq, Repr

/-- The wording of a defect. -/
def UrlDefect.message : UrlDefect → String
  | .length => "URL too long"
  | .control c position =>
    "Invalid non-printable ASCII character in URL, " ++ quoted c.toString ++ " at position " ++
      toString position ++ "."
  | .address4 host => "Invalid IPv4 address: " ++ quoted host
  | .address6 host => "Invalid IPv6 address: " ++ quoted host
  | .domainName host => "Invalid IDNA hostname: " ++ quoted host
  | .port text => "Invalid port: " ++ quoted text
  | .noSlash => "For absolute URLs, path must be empty or begin with '/'"
  | .beginning text => "Relative URLs cannot have a path starting with '" ++ text ++ "'"
  | .partLength part => "URL component '" ++ part ++ "' too long"

namespace Url

/-- The greatest length of an address and of each of its parts. -/
def maxLength : Nat := 65536

/-- An address with no part at all. -/
def empty : Url := ⟨"", "", "", none, "", none, none⟩

/-! ## Parts of a text -/

/-- The parts of an address as they are written. -/
structure Parts where
  scheme : String
  authority : String
  path : String
  query : Option String
  fragment : Option String
  deriving DecidableEq, Repr

/-- The text before the first of some marks, and the text from it on. -/
def splitAtAny (marks : List Char) (cs : List Char) : List Char × List Char :=
  cs.span fun c => !marks.contains c

/-- Characters that a scheme may have after its first letter. -/
def isSchemeChar (c : Char) : Bool := c.isAlphanum || "+.-".toList.contains c

/-- The scheme before a colon, and what follows the colon. -/
def splitScheme (cs : List Char) : List Char × List Char :=
  let scheme := if (cs.head?).any Char.isAlpha then cs.takeWhile isSchemeChar else []
  match cs.drop scheme.length with
  | ':' :: rest => (scheme, rest)
  | _ => ([], cs)

/-- What stands after two slashes up to the next mark, and what follows it. -/
def splitAuthority : List Char → List Char × List Char
  | '/' :: '/' :: rest => splitAtAny ['/', '?', '#'] rest
  | cs => ([], cs)

/-- The text after its first character, if it has one. -/
def afterMark? : List Char → Option String
  | [] => none
  | _ :: rest => some (String.ofList rest)

/-- The parts of an address. -/
def Parts.ofText (s : String) : Parts :=
  let (scheme, rest) := splitScheme s.toList
  let (authority, rest) := splitAuthority rest
  let (path, rest) := splitAtAny ['?', '#'] rest
  let (query, rest) := splitAtAny ['#'] rest
  ⟨String.ofList scheme, String.ofList authority, String.ofList path, afterMark? query,
    afterMark? rest⟩

/-- The user, the host and the port in an authority. The user ends with the last at sign; a host
between brackets may hold colons. -/
def splitHost (authority : String) : String × String × String :=
  let cs := authority.toList
  let back := cs.reverse.takeWhile (· != '@')
  let user := cs.take (cs.length - back.length - 1)
  let rest := back.reverse
  let host :=
    if rest.head? == some '[' && rest.contains ']' then
      (rest.reverse.dropWhile (· != ']')).reverse
    else rest.takeWhile (· != ':')
  let port := match rest.drop host.length with
    | ':' :: port => port
    | port => port
  (String.ofList user, String.ofList host, String.ofList port)

/-! ## Normal forms -/

/-- The normal form of a host. -/
def normalHost (host : String) : Except UrlDefect String :=
  let cs := host.toList
  if cs.isEmpty then .ok ""
  else if looksLikeAddress4 host then
    if isAddress4 host then .ok host else .error (.address4 host)
  else if cs.head? == some '[' && cs.getLast? == some ']' && cs.length != 1 then
    let inner := String.ofList cs.tail.dropLast
    if isAddress6 inner then .ok inner else .error (.address6 host)
  else if cs.all fun c => c.toNat < 0x80 then .ok (escape isHostChar (lower host))
  else
    match DomainName.ascii? (lower host) with
    | some name => .ok name
    | none => .error (.domainName host)

/-- The ports that are usual for a scheme. -/
def usualPorts : List (String × Int) :=
  [("ftp", 21), ("http", 80), ("https", 443), ("ws", 80), ("wss", 443)]

/-- The port of an address, unless it is the usual one of the scheme. -/
def normalPort (scheme port : String) : Except UrlDefect (Option Int) :=
  if port.isEmpty then .ok none
  else
    match Literal.integer port with
    | .ok n => .ok (if usualPorts.contains (scheme, n) then none else some n)
    | .error _ => .error (.port port)

/-- Whether an address has a host or anything beside it. -/
def hasAuthority (u : Url) : Bool := !u.user.isEmpty || !u.host.isEmpty || u.port.isSome

/-- Refuses an address whose path could not be told from its other parts. -/
def checkPath (u : Url) : Except UrlDefect Unit :=
  if u.hasAuthority then
    if u.path.isEmpty || u.path.startsWith "/" then .ok () else .error .noSlash
  else if !u.scheme.isEmpty then .ok ()
  else if u.path.startsWith "//" then .error (.beginning "//")
  else if u.path.startsWith ":" then .error (.beginning ":")
  else .ok ()

/-- The address with path, query and fragment in normal form. -/
def normal (u : Url) : Url :=
  let path := if !u.scheme.isEmpty || u.hasAuthority then normalPath u.path else u.path
  { u with
    path := escape isPathChar path
    query := u.query.map (escape isQueryChar)
    fragment := u.fragment.map (escape isFragmentChar) }

/-- The first control character of a text and its position. -/
def control? (s : String) : Option (Char × Nat) :=
  (s.toList.zipIdx).find? fun (c, _) => c.toNat < 0x20 || c.toNat == 0x7F

/-- The address that a text writes. -/
def parse (s : String) : Except UrlDefect Url := do
  if maxLength < s.length then throw .length
  if let some (c, i) := control? s then throw (.control c i)
  let parts := Parts.ofText s
  let (user, host, port) := splitHost parts.authority
  let u : Url := {
    scheme := lower parts.scheme
    user := escape isUserChar user
    host := ← normalHost host
    port := ← normalPort parts.scheme port
    path := parts.path
    query := parts.query
    fragment := parts.fragment }
  u.checkPath
  return u.normal

/-! ## Written forms -/

/-- The host and the port. -/
def hostText (u : Url) : String :=
  (if u.host.toList.contains ':' then "[" ++ u.host ++ "]" else u.host) ++
    (u.port.map fun n => ":" ++ toString n).getD ""

/-- The user, the host and the port. -/
def authority (u : Url) : String :=
  (if u.user.isEmpty then "" else u.user ++ "@") ++ u.hostText

/-- The address as a text. -/
def text (u : Url) : String :=
  (if u.scheme.isEmpty then "" else u.scheme ++ ":") ++
    (if u.authority.isEmpty then "" else "//" ++ u.authority) ++ u.path ++
    (u.query.map ("?" ++ ·)).getD "" ++ (u.fragment.map ("#" ++ ·)).getD ""

/-- The path and the query. A path that is empty is that of the root. -/
def place (u : Url) : String :=
  (if u.path.isEmpty then "/" else u.path) ++ (u.query.map ("?" ++ ·)).getD ""

/-! ## Relative addresses -/

/-- Whether an address says by itself where it leads. -/
def isAbsolute (u : Url) : Bool := !u.scheme.isEmpty && !u.host.isEmpty

/-- The address with another path and query and without a fragment. -/
def withPlace (u : Url) (place : String) : Except UrlDefect Url := do
  let (path, query) := splitAtAny ['?'] place.toList
  if maxLength < path.length then throw (.partLength "path")
  if maxLength + 1 < query.length then throw (.partLength "query")
  let u := { u with path := String.ofList path, query := afterMark? query, fragment := none }
  u.checkPath
  return u.normal

/-- The address that another one means from here. -/
def merge (base u : Url) : Except UrlDefect Url :=
  if u.isAbsolute then .ok u
  else
    let relative := String.ofList (u.place.toList.dropWhile (· == '/'))
    base.withPlace (base.place ++ relative)

end Url

end Automation
