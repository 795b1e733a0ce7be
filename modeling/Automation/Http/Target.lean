import Automation.Url.Basic

/-!
# Request targets

A request goes to an address, which is that of a place in the service unless it says more. What it
asks for is told from the path with its escapes decoded, so an escaped slash separates segments like
any other. A request that is sent elsewhere is told the whole address of the other path.
-/

set_option autoImplicit false

namespace Automation.Http.Target

/-- The address of the service itself. -/
def home : Url := { Url.empty with scheme := "http", host := "test" }

/-- The address that a text means to the service. -/
def ofText (s : String) : Except UrlDefect Url := (Url.parse s).bind home.merge

/-- The path of an address without its escapes. -/
def path (u : Url) : String := if u.path.isEmpty then "/" else Url.unescape u.path

/-- Characters that may stand in a path that is written out. -/
def isPathChar (c : Char) : Bool := "/:@!$&'()*+,;=".toList.contains c

/-- Characters that may stand in an address that is written out. -/
def isAddressChar (c : Char) : Bool := ":/%#?=@[]!$&'()*+,;".toList.contains c

/-- The text in which every character that may not stand is an escape, a percent sign like any
other. -/
def written (may : Char → Bool) (s : String) : String :=
  String.ofList (s.toList.flatMap (Url.escapedChar may))

/-- The address of another path on the same host, with the same query. -/
def elsewhere (u : Url) (path : String) : String :=
  let query := (u.query.filter fun q => !q.isEmpty).map ("?" ++ ·)
  written isAddressChar
    (u.scheme ++ "://" ++ u.hostText ++ written isPathChar path ++ query.getD "")

end Automation.Http.Target
