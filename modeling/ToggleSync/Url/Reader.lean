-- URLs, as far as a client needs them: what they begin with, and which server they name.
import ToggleSync.Text.Utf8
import ToggleSync.Url.Address

namespace ToggleSync

/-- The server that a URL names. -/
inductive Url.Host
  | domain (name : String)
  | v4 (address : Nat)
  | v6 (groups : List Nat)
  /-- A name in a URL whose scheme has rules of its own. -/
  | opaqueName (name : String)
  deriving DecidableEq, Repr

structure Url where
  scheme : String
  host : Option Url.Host
  port : Option Nat
  deriving DecidableEq, Repr

namespace Url

/-- Why a text is no URL. -/
inductive Fault
  | relative
  | emptyHost
  | port
  | ipv4
  | ipv6
  | domain
  | hostCharacter
  deriving DecidableEq, Repr

def Fault.message : Fault → String
  | .relative => "relative URL without a base"
  | .emptyHost => "empty host"
  | .port => "invalid port number"
  | .ipv4 => "invalid IPv4 address"
  | .ipv6 => "invalid IPv6 address"
  | .domain => "invalid international domain name"
  | .hostCharacter => "invalid domain character"

/-! ## Hosts -/

/-- The bytes of a text in which a byte may be written in base 16 behind a percent sign. -/
def percentDecode : List Char → List UInt8
  | [] => []
  | '%' :: a :: b :: rest =>
    match hexValue? a, hexValue? b with
    | some x, some y => .ofNat (x * 16 + y) :: percentDecode rest
    | _, _ => textBytes "%" ++ percentDecode (a :: b :: rest)
  | c :: cs => textBytes c.toString ++ percentDecode cs

def bracketed? (cs : List Char) : Option (List Char) :=
  match cs.getLast? with
  | some ']' => some cs.dropLast
  | _ => none

/-- An address of version 6 stands in brackets. -/
def v6Host (cs : List Char) : Except Fault Host :=
  match (bracketed? cs).bind ipv6? with
  | some groups => .ok (.v6 groups)
  | none => .error .ipv6

def Host.read : List Char → Except Fault Host
  | '[' :: cs => v6Host cs
  | cs =>
    match (Utf8.decode? (percentDecode cs)).bind fun s => domain? s.toList with
    | none => .error .domain
    | some name =>
      if name.isEmpty then .error .emptyHost
      else if endsInNumber name then
        match ipv4? name with
        | some address => .ok (.v4 address)
        | none => .error .ipv4
      else .ok (.domain (String.ofList name))

/-- The characters that no name of a server holds, whatever the scheme. -/
def isForbiddenAnywhere (c : Char) : Bool :=
  "\x00\t\n\r #/:<>?@[\\]^|".toList.contains c

def Host.readOpaque : List Char → Except Fault Host
  | '[' :: cs => v6Host cs
  | cs =>
    if cs.any isForbiddenAnywhere then .error .hostCharacter
    else .ok (.opaqueName (String.ofList cs))

/-! ## Schemes -/

/-- The schemes whose URLs always name a server. -/
def specialSchemes : List String := ["http", "https", "ws", "wss", "ftp"]

def isAsciiLetter (c : Char) : Bool := ('a' ≤ c && c ≤ 'z') || ('A' ≤ c && c ≤ 'Z')

def isSchemeCharacter (c : Char) : Bool :=
  isAsciiLetter c || isAsciiDigit c || "+-.".toList.contains c

/-- The scheme before the first colon, in lower case, and what stands behind it. -/
def splitScheme? (cs : List Char) : Option (String × List Char) :=
  match cs.takeWhile isSchemeCharacter, cs.dropWhile isSchemeCharacter with
  | first :: more, ':' :: rest =>
    if isAsciiLetter first then some (String.ofList ((first :: more).map Char.toLower), rest)
    else none
  | _, _ => none

/-! ## Servers -/

def isSlash (c : Char) : Bool := c == '/' || c == '\\'

/-- Where the part that names the server ends. -/
def endsAuthority (special : Bool) (c : Char) : Bool :=
  c == '/' || c == '?' || c == '#' || (special && c == '\\')

/-- The characters up to the last one that satisfies `p`, without it, and those behind it. -/
def splitLast? (p : Char → Bool) (cs : List Char) : Option (List Char × List Char) :=
  let behind := (cs.reverse.takeWhile (!p ·)).reverse
  if behind.length < cs.length then some (cs.take (cs.length - behind.length - 1), behind) else none

/-- The name of the server ends at a colon that is not in brackets. -/
def splitHost (inBrackets : Bool) : List Char → List Char × List Char
  | [] => ([], [])
  | c :: cs =>
    if c == ':' && !inBrackets then ([], c :: cs)
    else
      let r := splitHost (if c == '[' then true else if c == ']' then false else inBrackets) cs
      (c :: r.1, r.2)

/-- The port behind a colon. It may be left out. -/
def readPort : List Char → Except Fault (Option Nat)
  | ':' :: cs =>
    let digits := cs.takeWhile isAsciiDigit
    let port := digits.foldl (fun n c => n * 10 + digitValue c) 0
    if 65535 < port || (cs.dropWhile isAsciiDigit).head?.any (!isSlash ·) then .error .port
    else .ok (if digits.isEmpty then none else some port)
  | _ => .ok none

/-- A user name or a password, or both, in front of the server. -/
def namesUser (user : Option (List Char)) : Bool := user.any fun cs => !cs.isEmpty && cs ≠ [':']

/-- Reads what stands behind the slashes of a URL. -/
def readAuthority (scheme : String) (special : Bool) (cs : List Char) : Except Fault Url := do
  let authority := cs.takeWhile (!endsAuthority special ·)
  let (user, server) := match splitLast? (· == '@') authority with
    | some (user, server) => (some user, server)
    | none => (none, authority)
  let cutShort := user = some [] && server.isEmpty && authority.length < cs.length
  let (name, rest) := splitHost false server
  if name.isEmpty && (special || cutShort || namesUser user || !rest.isEmpty) then .error .emptyHost
  else
    let host ← if special then Host.read name else Host.readOpaque name
    let port ← readPort rest
    .ok ⟨scheme, if name.isEmpty then none else some host, port⟩

/-- A drive letter stands in the place of a server in the URL of a file. -/
def isDriveLetter : List Char → Bool
  | [a, b] => isAsciiLetter a && (b == ':' || b == '|')
  | _ => false

def readFile (scheme : String) : List Char → Except Fault Url
  | a :: b :: cs =>
    let name := cs.takeWhile (!endsAuthority true ·)
    if isSlash a && isSlash b && !name.isEmpty && !isDriveLetter name then
      (Host.read name).map fun host => ⟨scheme, some host, none⟩
    else .ok ⟨scheme, none, none⟩
  | _ => .ok ⟨scheme, none, none⟩

/-! ## URLs -/

/-- Controls and spaces at the ends do not count, nor do tabs and line breaks anywhere. -/
def significant (cs : List Char) : List Char :=
  let isPadding (c : Char) : Bool := c.toNat ≤ 0x20
  (dropLast isPadding (cs.dropWhile isPadding)).filter fun c => c != '\t' && c != '\n' && c != '\r'

def read (text : String) : Except Fault Url :=
  match splitScheme? (significant text.toList) with
  | none => .error .relative
  | some (scheme, rest) =>
    if scheme = "file" then readFile scheme rest
    else if specialSchemes.contains scheme then readAuthority scheme true (rest.dropWhile isSlash)
    else
      match rest with
      | '/' :: '/' :: rest => readAuthority scheme false rest
      | _ => .ok ⟨scheme, none, none⟩

end Url

end ToggleSync
