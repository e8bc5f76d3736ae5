-- Which variant of a toggle a context gets.
import ToggleSync.Context
import ToggleSync.Toggle

namespace ToggleSync

/-- The variant that an application sees. -/
structure Variant where
  name : String
  enabled : Bool
  featureEnabled : Bool
  payload : Option Payload
  deriving DecidableEq, Repr

/-- The variant of a toggle that is off, or has none to give. -/
def Variant.disabled (featureEnabled : Bool) : Variant := ⟨"disabled", false, featureEnabled, none⟩

instance : Inhabited Variant := ⟨.disabled false⟩

def Variant.isDisabled (v : Variant) : Bool := !v.enabled

/-! ## Buckets -/

def bucketBytes (group key : String) : List UInt8 :=
  textBytes group ++ textBytes ":" ++ textBytes key

/-- The first four bytes of a digest as a number. -/
def leadingNumber (digest : List UInt8) : Nat :=
  (digest.take 4).foldl (fun n b => n * 256 + b.toNat) 0

/-- A number from 1 to the modulus that only the group and the key decide; 0 for the modulus 0. -/
def bucket (group key : String) (modulus : Nat) : Nat :=
  if modulus = 0 then 0
  else leadingNumber (Digest.sha256 (bucketBytes group key)) % modulus + 1

namespace Toggle

/-! ## Choosing -/

def weightOf : List WeightedVariant → Nat
  | [] => 0
  | w :: ws => w.weight.toNat + weightOf ws

def totalWeight (t : Toggle) : Nat := weightOf t.variants

/-- Buckets are counted in 32 bits. -/
def maxBucket : Nat := UInt32.size - 1

def bucketCount (t : Toggle) : Nat := min t.totalWeight maxBucket

/-- The first variant whose share of the buckets, counted from the front, reaches `b`. -/
def variantAt? (b : Nat) : List WeightedVariant → Option WeightedVariant
  | [] => none
  | w :: ws => if b ≤ w.weight.toNat then some w else variantAt? (b - w.weight.toNat) ws

/-- The stickiness of the first variant counts for the whole toggle. -/
def stickiness (t : Toggle) : Option String := t.variants.head?.bind (·.stickiness)

/-- The variant of a context. A context without stickiness value takes the key `spare`. -/
def variantFor (t : Toggle) (c : Context) (spare : String) : Variant :=
  if !t.enabled || t.totalWeight = 0 then .disabled t.enabled
  else
    let key := (c.stickinessValue t.stickiness).getD spare
    match variantAt? (bucket t.name key t.bucketCount) t.variants with
    | some w => ⟨w.name, true, true, w.payload⟩
    | none => .disabled t.enabled

end Toggle

end ToggleSync
