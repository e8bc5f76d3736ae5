-- The headers that a client sends with each of its requests.
import ToggleSync.Identity

namespace ToggleSync.Http

/-- The characters that a name may hold besides letters and digits. -/
def nameMarks : List Char := "!#$%&'*+-.^_\x60|~".toList

def isNameCharacter (c : Char) : Bool :=
  Url.isAsciiLetter c || isAsciiDigit c || nameMarks.contains c

def isName (s : String) : Bool := !s.isEmpty && s.toList.all isNameCharacter

/-- A value holds no controls but tabs. -/
def isValueCharacter (c : Char) : Bool := c == '\t' || (0x20 ≤ c.toNat && c.toNat != 0x7F)

def isValue (s : String) : Bool := s.toList.all isValueCharacter

/-- Names are the same in either case, and are sent in lower case. -/
def lowerName (s : String) : String := String.ofList (s.toList.map Char.toLower)

/-- Sets a header. A value that was set before under the name is replaced. -/
def putHeader (headers : Table String) (header : String × String) : Except Failure (Table String) :=
  if !isName header.1 then
    .error (.invalidSettings s!"header name {header.1}: invalid HTTP header name")
  else if !isValue header.2 then
    .error (.invalidSettings s!"header {lowerName header.1}: failed to parse header value")
  else .ok (headers.put (lowerName header.1) header.2)

/-- How a client makes itself known in each request. -/
def identityHeaders (i : Identity) : List (String × String) :=
  [("loom-appname", i.appName), ("loom-instanceid", i.instanceId),
    ("loom-connection-id", i.connectionId), ("loom-sdk", i.sdkVersion)]

/-- The headers of each request. The application's own ones come last. -/
def headers (s : Settings) (i : Identity) : Except Failure (Table String) :=
  (identityHeaders i ++ s.headers.entries).foldlM putHeader ∅

/-- Makes sure that requests can be sent with these settings. -/
def check (s : Settings) (i : Identity) : Except Failure Unit := do
  let _ ← s.url
  let _ ← headers s i
  .ok ()

end ToggleSync.Http
