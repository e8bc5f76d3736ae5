-- Records in JSON. A record is written as an object, or as an array of its fields in order.
-- An object may hold other members, in any number, but no field twice. An array may end
-- early and may not go on behind the last field.
import ToggleSync.Json.Value

namespace ToggleSync.Json

structure Fields where
  /-- Written as an array. -/
  positional : Bool
  found : List (String × Value)

def Fields.get? (f : Fields) (name : String) : Option Value := f.found.lookup name

/-- How often a key stands in an object. -/
def keyCount (key : String) (ms : List (String × Value)) : Nat := ms.countP (·.1 == key)

/-- The fields of a record with the given names. -/
def Fields.ofValue? (names : List String) : Value → Option Fields
  | .object ms =>
    if names.all (keyCount · ms ≤ 1) then some ⟨false, ms.filter (names.contains ·.1)⟩ else none
  | .array vs =>
    if vs.length ≤ names.length then some ⟨true, names.zip vs⟩ else none
  | _ => none

/-! ## Kinds of fields -/

/-- A field that has to be there. -/
def Fields.required {α : Type} (f : Fields) (name : String) (read : Value → Option α) : Option α :=
  (f.get? name).bind read

/-- A field with a value of its own where none is written. -/
def Fields.orElse {α : Type} (f : Fields) (name : String) (default : α)
    (read : Value → Option α) : Option α :=
  match f.get? name with
  | some v => read v
  | none => some default

/-- A value that may be written as null. -/
def Value.nullable {α : Type} (read : Value → Option α) : Value → Option (Option α)
  | .null => some none
  | v => (read v).map some

/-- A field that may be null, and may be left out. -/
def Fields.optional {α : Type} (f : Fields) (name : String) (read : Value → Option α) :
    Option (Option α) :=
  f.orElse name none (Value.nullable read)

/-- A field that may be null, and may be left out of an object but not of an array. -/
def Fields.placed {α : Type} (f : Fields) (name : String) (read : Value → Option α) :
    Option (Option α) :=
  match f.get? name with
  | some v => v.nullable read
  | none => if f.positional then none else some none

/-! ## Scalars and lists -/

def Value.text? : Value → Option String
  | .text s => some s
  | _ => none

def Value.bool? : Value → Option Bool
  | .bool b => some b
  | _ => none

def Value.uint32? : Value → Option UInt32
  | .natural n => if n < UInt32.size then some (.ofNat n) else none
  | _ => none

def Value.uint64? : Value → Option UInt64
  | .natural n => if n < UInt64.size then some (.ofNat n) else none
  | _ => none

def Value.list? {α : Type} (read : Value → Option α) : Value → Option (List α)
  | .array vs => vs.mapM read
  | _ => none

def Value.ofUInt32 (n : UInt32) : Value := .natural n.toNat

def Value.ofUInt64 (n : UInt64) : Value := .natural n.toNat

/-- A member that is left out when there is nothing to write. -/
def memberOf {α : Type} (name : String) (write : α → Value) : Option α → List (String × Value)
  | none => []
  | some a => [(name, write a)]

/-- A member that is written as null when there is nothing to write. -/
def nullOr {α : Type} (write : α → Value) : Option α → Value
  | none => .null
  | some a => write a

end ToggleSync.Json
