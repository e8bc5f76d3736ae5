-- Reading the state that a server or a backup gives, and the errors that this can have.
import ToggleSync.Mode
import ToggleSync.Wire.Toggle

namespace ToggleSync

/-- Why a text is no state. -/
inductive Malformation
  | text (report : Json.Report)
  /-- JSON, but neither a delta nor a collection. -/
  | shape
  deriving DecidableEq, Repr

def Malformation.message : Malformation → String
  | .text report => report.message
  | .shape => "data did not match any variant of untagged enum StatePayload"

inductive StateError
  | malformed (detail : Malformation)
  | empty
  | unknownMode (text : String)
  deriving DecidableEq, Repr

def StateError.message : StateError → String
  | .malformed detail => "malformed toggle state: " ++ detail.message
  | .empty => "toggle state payload is empty"
  | .unknownMode text => "unknown sync mode: " ++ text

/-! ## State -/

/-- A value that is both shapes is a delta. -/
def Update.ofValue? (v : Json.Value) : Option Update :=
  match deltaOfValue? .byNameOrNumber v with
  | some changes => some (.delta changes)
  | none => (Collection.ofValue? v).map .full

def Update.toValue : Update → Json.Value
  | .delta changes => deltaToValue changes
  | .full collection => collection.toValue

def Update.render (u : Update) : String := u.toValue.render

/-- What is behind the value counts only once the value has a shape. -/
def Update.read (text : String) : Except StateError Update :=
  let broken (fault : Json.Fault) : Except StateError Update :=
    .error (.malformed (.text (fault.report text)))
  if isBlankText text then .error .empty
  else
    match Json.Value.readFront text with
    | .error fault => broken fault
    | .ok (v, r) =>
      match Update.ofValue? v with
      | none => .error (.malformed .shape)
      | some u =>
        match Json.readEnd r with
        | .error fault => broken fault
        | .ok () => .ok u

/-! ## Modes -/

def Mode.read (text : String) : Except StateError Mode :=
  match Mode.ofName? (trim text) with
  | some m => .ok m
  | none => .error (.unknownMode (trim text))

end ToggleSync
