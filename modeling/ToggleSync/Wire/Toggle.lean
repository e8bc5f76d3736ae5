-- Toggles, collections and changes as JSON.
import ToggleSync.Delta
import ToggleSync.Json.Reader
import ToggleSync.Json.Record

namespace ToggleSync

open Json

/-! ## Toggles -/

def Payload.toValue (p : Payload) : Value :=
  .object [("type", .text p.kind), ("value", .text p.value)]

def Payload.ofValue? (v : Value) : Option Payload := do
  let f ← Fields.ofValue? ["type", "value"] v
  let kind ← f.required "type" Value.text?
  let value ← f.required "value" Value.text?
  some { kind, value }

def WeightedVariant.toValue (w : WeightedVariant) : Value :=
  .object <| [("name", .text w.name), ("weight", .ofUInt32 w.weight)] ++
    memberOf "stickiness" .text w.stickiness ++ memberOf "payload" Payload.toValue w.payload

def WeightedVariant.ofValue? (v : Value) : Option WeightedVariant := do
  let f ← Fields.ofValue? ["name", "weight", "stickiness", "payload"] v
  let name ← f.required "name" Value.text?
  let weight ← f.orElse "weight" 0 Value.uint32?
  let stickiness ← f.optional "stickiness" Value.text?
  let payload ← f.optional "payload" Payload.ofValue?
  some { name, weight, stickiness, payload }

def Toggle.toValue (t : Toggle) : Value :=
  .object <| [("name", .text t.name), ("enabled", .bool t.enabled)] ++
    memberOf "project" .text t.project ++ memberOf "description" .text t.description ++
    [("impressionData", .bool t.impressionData),
      ("variants", .array (t.variants.map WeightedVariant.toValue))]

def Toggle.fieldNames : List String :=
  ["name", "enabled", "project", "description", "impressionData", "variants"]

def Toggle.ofValue? (v : Value) : Option Toggle := do
  let f ← Fields.ofValue? Toggle.fieldNames v
  let name ← f.required "name" Value.text?
  let enabled ← f.orElse "enabled" false Value.bool?
  let project ← f.optional "project" Value.text?
  let description ← f.optional "description" Value.text?
  let impressionData ← f.orElse "impressionData" false Value.bool?
  let variants ← f.orElse "variants" [] (Value.list? WeightedVariant.ofValue?)
  some { name, enabled, project, description, impressionData, variants }

/-! ## Collections -/

def Collection.toValue (c : Collection) : Value :=
  .object [("version", .ofUInt32 c.version), ("features", .array (c.toggles.map Toggle.toValue))]

def Collection.ofValue? (v : Value) : Option Collection := do
  let f ← Fields.ofValue? ["version", "features"] v
  let version ← f.orElse "version" stateVersion Value.uint32?
  let toggles ← f.required "features" (Value.list? Toggle.ofValue?)
  some { version, toggles }

def Collection.render (c : Collection) : String := c.toValue.render

/-! ## Changes -/

inductive ChangeKind
  | hydration
  | updated
  | removed
  deriving DecidableEq, Repr

def ChangeKind.tag : ChangeKind → String
  | .hydration => "hydration"
  | .updated => "feature-updated"
  | .removed => "feature-removed"

def Change.toValue : Change → Value
  | .hydration id toggles => .object
    [("type", .text ChangeKind.hydration.tag), ("eventId", .ofUInt64 id),
      ("features", .array (toggles.map Toggle.toValue))]
  | .updated id toggle => .object
    [("type", .text ChangeKind.updated.tag), ("eventId", .ofUInt64 id), ("feature", toggle.toValue)]
  | .removed id name project => .object
    [("type", .text ChangeKind.removed.tag), ("eventId", .ofUInt64 id), ("featureName", .text name),
      ("project", nullOr .text project)]

/-- Whether the kind of a change may also be given by its number, from 0. -/
inductive Tagging
  | byName
  | byNameOrNumber
  deriving DecidableEq, Repr

def ChangeKind.ofValue? (tagging : Tagging) : Value → Option ChangeKind
  | .text "hydration" => some .hydration
  | .text "feature-updated" => some .updated
  | .text "feature-removed" => some .removed
  | .natural n => if tagging = .byNameOrNumber then [.hydration, .updated, .removed][n]? else none
  | _ => none

/-- The tag of a change, and the record without it: a member of an object, which may stand
anywhere, or the first item of an array. -/
def splitTag : Value → Option (Value × Value)
  | .object ms =>
    match ms.filter (·.1 == "type") with
    | [(_, tag)] => some (tag, .object (ms.filter (·.1 != "type")))
    | _ => none
  | .array (tag :: vs) => some (tag, .array vs)
  | _ => none

/-- Every part of a change has to stand for something, also one that no field takes. -/
def Change.ofValue? (tagging : Tagging) (v : Value) : Option Change := do
  let (tag, body) ← if v.isSound then splitTag v else none
  match ← ChangeKind.ofValue? tagging tag with
  | .hydration =>
    let f ← Fields.ofValue? ["eventId", "features"] body
    let id ← f.required "eventId" Value.uint64?
    let toggles ← f.required "features" (Value.list? Toggle.ofValue?)
    some (.hydration id toggles)
  | .updated =>
    let f ← Fields.ofValue? ["eventId", "feature"] body
    let id ← f.required "eventId" Value.uint64?
    let toggle ← f.required "feature" Toggle.ofValue?
    some (.updated id toggle)
  | .removed =>
    let f ← Fields.ofValue? ["eventId", "featureName", "project"] body
    let id ← f.required "eventId" Value.uint64?
    let name ← f.required "featureName" Value.text?
    let project ← f.optional "project" Value.text?
    some (.removed id name project)

def deltaToValue (changes : List Change) : Value :=
  .object [("events", .array (changes.map Change.toValue))]

def deltaOfValue? (tagging : Tagging) (v : Value) : Option (List Change) := do
  let f ← Fields.ofValue? ["events"] v
  f.required "events" (Value.list? (Change.ofValue? tagging))

end ToggleSync
