-- Contexts, variants, counts, reports, modes and stream messages as JSON.
import ToggleSync.Assignment
import ToggleSync.Mode
import ToggleSync.StreamMessage
import ToggleSync.Usage
import ToggleSync.Wire.Toggle

namespace ToggleSync

open Json

def Instant.toValue (i : Instant) : Value := .text i.render

def Instant.ofValue? (v : Value) : Option Instant := v.text?.bind Instant.read?

/-- A table as an object. -/
def Table.toValue {α : Type} (write : α → Value) (t : Table α) : Value :=
  .object (t.entries.map fun e => (e.1, write e.2))

/-- Of members with one name the last counts. All of them have to be readable. -/
def Table.ofValue? {α : Type} (read : Value → Option α) : Value → Option (Table α)
  | .object ms => (ms.mapM fun m => (read m.2).map (m.1, ·)).map Table.ofList
  | _ => none

/-! ## Contexts and variants -/

def Context.toValue (c : Context) : Value :=
  .object [("userId", nullOr .text c.userId), ("sessionId", nullOr .text c.sessionId),
    ("remoteAddress", nullOr .text c.remoteAddress), ("environment", nullOr .text c.environment),
    ("appName", nullOr .text c.appName), ("currentTime", nullOr Instant.toValue c.currentTime),
    ("properties", c.properties.toValue .text)]

def Context.fieldNames : List String :=
  ["userId", "sessionId", "remoteAddress", "environment", "appName", "currentTime", "properties"]

def Context.ofValue? (v : Value) : Option Context := do
  let f ← Fields.ofValue? Context.fieldNames v
  let userId ← f.placed "userId" Value.text?
  let sessionId ← f.placed "sessionId" Value.text?
  let remoteAddress ← f.placed "remoteAddress" Value.text?
  let environment ← f.placed "environment" Value.text?
  let appName ← f.placed "appName" Value.text?
  let currentTime ← f.placed "currentTime" Instant.ofValue?
  let properties ← f.orElse "properties" ∅ (Table.ofValue? Value.text?)
  some { userId, sessionId, remoteAddress, environment, appName, currentTime, properties }

def Variant.toValue (v : Variant) : Value :=
  .object <| [("name", .text v.name), ("enabled", .bool v.enabled),
    ("featureEnabled", .bool v.featureEnabled)] ++ memberOf "payload" Payload.toValue v.payload

def Variant.ofValue? (v : Value) : Option Variant := do
  let f ← Fields.ofValue? ["name", "enabled", "featureEnabled", "payload"] v
  let name ← f.required "name" Value.text?
  let enabled ← f.required "enabled" Value.bool?
  let featureEnabled ← f.required "featureEnabled" Value.bool?
  let payload ← f.optional "payload" Payload.ofValue?
  some { name, enabled, featureEnabled, payload }

/-! ## Reports -/

def Count.toValue (c : Count) : Value :=
  .object [("yes", .ofUInt64 c.yes), ("no", .ofUInt64 c.no),
    ("variants", c.variants.toValue .ofUInt64)]

def Count.ofValue? (v : Value) : Option Count := do
  let f ← Fields.ofValue? ["yes", "no", "variants"] v
  let yes ← f.required "yes" Value.uint64?
  let no ← f.required "no" Value.uint64?
  let variants ← f.orElse "variants" ∅ (Table.ofValue? Value.uint64?)
  some { yes, no, variants }

def Usage.toValue (u : Usage) : Value :=
  .object [("start", u.start.toValue), ("stop", u.stop.toValue),
    ("toggles", u.toggles.toValue Count.toValue)]

def Usage.ofValue? (v : Value) : Option Usage := do
  let f ← Fields.ofValue? ["start", "stop", "toggles"] v
  let start ← f.required "start" Instant.ofValue?
  let stop ← f.required "stop" Instant.ofValue?
  let toggles ← f.required "toggles" (Table.ofValue? Count.ofValue?)
  some { start, stop, toggles }

def Metrics.toValue (m : Metrics) : Value :=
  .object [("appName", .text m.appName), ("instanceId", .text m.instanceId),
    ("connectionId", .text m.connectionId), ("bucket", m.bucket.toValue)]

def Metrics.ofValue? (v : Value) : Option Metrics := do
  let f ← Fields.ofValue? ["appName", "instanceId", "connectionId", "bucket"] v
  let appName ← f.required "appName" Value.text?
  let instanceId ← f.required "instanceId" Value.text?
  let connectionId ← f.required "connectionId" Value.text?
  let bucket ← f.required "bucket" Usage.ofValue?
  some { appName, instanceId, connectionId, bucket }

def Registration.toValue (r : Registration) : Value :=
  .object [("appName", .text r.appName), ("instanceId", .text r.instanceId),
    ("connectionId", .text r.connectionId), ("sdkVersion", .text r.sdkVersion),
    ("strategies", .array (r.strategies.map .text)), ("started", r.started.toValue),
    ("intervalMs", .ofUInt64 r.intervalMs)]

def Registration.fieldNames : List String :=
  ["appName", "instanceId", "connectionId", "sdkVersion", "strategies", "started", "intervalMs"]

def Registration.ofValue? (v : Value) : Option Registration := do
  let f ← Fields.ofValue? Registration.fieldNames v
  let appName ← f.required "appName" Value.text?
  let instanceId ← f.required "instanceId" Value.text?
  let connectionId ← f.required "connectionId" Value.text?
  let sdkVersion ← f.required "sdkVersion" Value.text?
  let strategies ← f.required "strategies" (Value.list? Value.text?)
  let started ← f.required "started" Instant.ofValue?
  let intervalMs ← f.required "intervalMs" Value.uint64?
  some { appName, instanceId, connectionId, sdkVersion, strategies, started, intervalMs }

/-! ## Modes and messages -/

def Mode.toValue (m : Mode) : Value := .text m.name

/-- A mode may also be the only key of an object, over null. -/
def Mode.ofValue? : Value → Option Mode
  | .text s => Mode.ofName? s
  | .object [(k, .null)] => Mode.ofName? k
  | _ => none

/-- A message that is not known has no text. -/
def StreamMessage.toValue? (m : StreamMessage) : Option Value :=
  if m.isKnown then some (.object [("event", .text m.event), ("data", .text m.data)]) else none

/-- The name of an event may be the only key of an object, over null, where it stands under a key
of its own. -/
def eventName? (positional : Bool) : Value → Option String
  | .text name => some name
  | .object [(name, .null)] => if positional then none else some name
  | _ => none

def StreamMessage.ofValue? (v : Value) : Option StreamMessage := do
  let f ← Fields.ofValue? ["event", "data"] v
  let event ← f.required "event" (eventName? f.positional)
  let data ← f.required "data" Value.text?
  let m := StreamMessage.ofEvent event data
  if m.isKnown then some m else none

end ToggleSync
