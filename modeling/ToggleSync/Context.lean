-- What an application knows about the one it asks for, and how contexts are told apart.
import ToggleSync.Digest
import ToggleSync.Instant
import ToggleSync.Table
import ToggleSync.Text.Utf8

namespace ToggleSync

structure Context where
  userId : Option String
  sessionId : Option String
  remoteAddress : Option String
  environment : Option String
  appName : Option String
  currentTime : Option Instant
  properties : Table String
  deriving DecidableEq

namespace Context

def empty : Context := ⟨none, none, none, none, none, none, ∅⟩

instance : Inhabited Context := ⟨empty⟩

/-- A field by its name. A name that is none of the fields is that of a property. -/
def field? (c : Context) (name : String) : Option String :=
  if name = "userId" then c.userId
  else if name = "sessionId" then c.sessionId
  else if name = "remoteAddress" then c.remoteAddress
  else if name = "environment" then c.environment
  else if name = "appName" then c.appName
  else c.properties.get? name

/-- Sets a field by its name. A name that is none of the fields is that of a property. -/
def setField (c : Context) (name value : String) : Context :=
  if name = "userId" then { c with userId := some value }
  else if name = "sessionId" then { c with sessionId := some value }
  else if name = "remoteAddress" then { c with remoteAddress := some value }
  else if name = "environment" then { c with environment := some value }
  else if name = "appName" then { c with appName := some value }
  else { c with properties := c.properties.put name value }

/-- Fills in what does not change while an application runs, where the caller left it open. -/
def withDefaults (c : Context) (appName environment : String) : Context :=
  { c with
    appName := c.appName.or (some appName)
    environment := c.environment.or (some environment) }

/-- What keeps a context on its variant: the named field, or the best of the usual three. -/
def stickinessValue (c : Context) (stickiness : Option String) : Option String :=
  match stickiness with
  | none => usual
  | some name => if name = "default" then usual else c.field? name
where
  usual : Option String := c.userId.or (c.sessionId.or c.remoteAddress)

end Context

/-! ## Fingerprints -/

namespace Context

/-- The properties in the order of their names. -/
def sortedProperties (c : Context) : List (String × String) :=
  c.properties.entries.mergeSort fun a b => a.1 ≤ b.1

/-- What is hashed for a fingerprint. An absent field and an empty one look the same here. -/
def fingerprintBytes (c : Context) (toggle : String) : List UInt8 :=
  let fields := [c.userId, c.sessionId, c.remoteAddress, c.environment]
  textBytes toggle ++ textBytes "|" ++
    fields.flatMap (fun f => textBytes (f.getD "") ++ textBytes "|") ++
    c.sortedProperties.flatMap fun p =>
      textBytes p.1 ++ textBytes "=" ++ textBytes p.2 ++ textBytes ","

def fingerprint (c : Context) (toggle : String) : String :=
  hexText (Digest.sha256 (c.fingerprintBytes toggle))

end Context

end ToggleSync
