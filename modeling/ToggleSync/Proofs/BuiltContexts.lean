-- A fingerprint tells nothing of how its context was built. Properties may come in any order and be
-- written over as often as one likes: what counts is what the context holds in the end, and of that
-- neither the name of the application nor the time.
import Mathlib.Data.List.Induction
import ToggleSync.Proofs.Fingerprints

namespace ToggleSync

/-- Entries that stand in the order of their keys, each key once, are the sorted entries of every
table in which the same is found. -/
theorem Table.sorted_eq_of_ascending {α : Type} {t : Table α} {es : List (String × α)}
    (h : es.Pairwise fun a b => a.1 < b.1) (hfind : ∀ key, t.get? key = find key es) :
    t.sorted = es := by
  have hdistinct : (es.map Prod.fst).Nodup := by
    rw [List.Nodup, List.pairwise_map]
    exact h.imp String.ne_of_lt
  let ordered : Table α := ⟨es, hdistinct⟩
  calc t.sorted
    _ = ordered.sorted := (sorted_eq_iff t ordered).mpr hfind
    _ = es := sorted_of_ordered (h.imp Std.le_of_lt)

namespace Context

/-! ## Building -/

/-- A step in the building of a context. A property may have the name of a field. -/
inductive Edit
  | field (name value : String)
  | property (name value : String)
  | defaults (appName environment : String)
  | time (time : Option Instant)

def edit (c : Context) : Edit → Context
  | .field name value => c.setField name value
  | .property name value => { c with properties := c.properties.put name value }
  | .defaults appName environment => c.withDefaults appName environment
  | .time time => { c with currentTime := time }

def build (c : Context) (edits : List Edit) : Context := edits.foldl edit c

theorem build_snoc (c : Context) (edits : List Edit) (e : Edit) :
    c.build (edits ++ [e]) = (c.build edits).edit e := by
  simp [build]

def fieldKeys : List String := ["userId", "sessionId", "remoteAddress", "environment", "appName"]

/-- The property that a step writes. -/
def Edit.write? : Edit → Option (String × String)
  | .field name value => if name ∈ fieldKeys then none else some (name, value)
  | .property name value => some (name, value)
  | _ => none

/-- What a property was given last. -/
def lastWritten? (name : String) (edits : List Edit) : Option String :=
  Table.find name (edits.filterMap Edit.write?).reverse

theorem lastWritten?_snoc (name : String) (edits : List Edit) (e : Edit) :
    lastWritten? name (edits ++ [e]) =
      (Table.find name e.write?.toList).or (lastWritten? name edits) := by
  unfold lastWritten?
  rw [List.filterMap_append, List.filterMap_cons]
  cases e.write? with
  | none => simp [Table.find]
  | some w =>
    simp only [List.filterMap_nil, Option.toList, List.reverse_append, List.reverse_singleton,
      List.singleton_append, Table.find]
    split <;> rfl

theorem properties_setField (c : Context) (name value : String) :
    (c.setField name value).properties =
      if name ∈ fieldKeys then c.properties else c.properties.put name value := by
  unfold setField fieldKeys
  grind

/-- A step changes at most the property that it writes. -/
theorem get?_edit (c : Context) (e : Edit) (name : String) :
    (c.edit e).properties.get? name =
      (Table.find name e.write?.toList).or (c.properties.get? name) := by
  have hput : ∀ key value, (c.properties.put key value).get? name =
      (Table.find name [(key, value)]).or (c.properties.get? name) := by
    intro key value
    rw [Table.get?_put]
    by_cases h : name = key
    · simp [Table.find, h]
    · simp [Table.find, h, Ne.symm h]
  cases e with
  | field key value =>
    simp only [edit, properties_setField, Edit.write?]
    split
    · rfl
    · exact hput key value
  | property key value => exact hput key value
  | defaults appName environment => rfl
  | time time => rfl

/-- Of everything that was written to a property the last counts. -/
theorem get?_build (c : Context) (edits : List Edit) (name : String) :
    (c.build edits).properties.get? name =
      (lastWritten? name edits).or (c.properties.get? name) := by
  induction edits using List.reverseRecOn with
  | nil => rfl
  | append_singleton edits e ih =>
    rw [build_snoc, get?_edit, ih, lastWritten?_snoc, Option.or_assoc]

/-! ## What counts -/

/-- Contexts that agree in everything but the name of the application and the time. -/
structure Agrees (c c' : Context) : Prop where
  userId : c.userId = c'.userId
  sessionId : c.sessionId = c'.sessionId
  remoteAddress : c.remoteAddress = c'.remoteAddress
  environment : c.environment = c'.environment
  properties : ∀ name, c.properties.get? name = c'.properties.get? name

theorem Agrees.alike {c c' : Context} (h : c.Agrees c') : c.Alike c' := by
  refine ⟨?_, h.properties⟩
  rw [hashedFields, h.userId, h.sessionId, h.remoteAddress, h.environment, hashedFields]

theorem Alike.fingerprint {c c' : Context} (h : c.Alike c') (toggle : String) :
    c.fingerprint toggle = c'.fingerprint toggle := by
  rw [Context.fingerprint, bytes_of_alike h, Context.fingerprint]

/-! ## The law -/

/-- Contexts that agree in user, session, address, environment and in what is found under each name
of a property have one fingerprint, whatever steps they were built in. Under a name is found what
was written there last. The name of the application, the time and the order of the entries make no
difference. And the fingerprint is the hash of one text: that of the toggle, the four fields and the
properties in the order of their names. -/
theorem a_fingerprint_forgets_how_its_context_was_built (toggle : String) :
    (∀ (c c' : Context) (edits edits' : List Edit), (c.build edits).Agrees (c'.build edits') →
      (c.build edits).fingerprint toggle = (c'.build edits').fingerprint toggle) ∧
    (∀ (c : Context) (edits : List Edit) (name : String),
      (c.build edits).properties.get? name =
        (lastWritten? name edits).or (c.properties.get? name)) ∧
    (∀ (c : Context) (appName : Option String) (time : Option Instant),
      { c with appName := appName, currentTime := time }.fingerprint toggle =
        c.fingerprint toggle) ∧
    (∀ (c : Context) (properties : Table String), properties.entries.Perm c.properties.entries →
      { c with properties := properties }.fingerprint toggle = c.fingerprint toggle) ∧
    (∀ (c : Context) (es : List (String × String)), (es.Pairwise fun a b => a.1 < b.1) →
      (∀ name, c.properties.get? name = Table.find name es) →
      c.fingerprint toggle = hexText (Digest.sha256 (charBytes
        (toggle.toList ++ '|' :: (barred c.hashedFields ++ es.flatMap propertyChars))))) := by
  refine ⟨fun _ _ _ _ h => h.alike.fingerprint toggle, get?_build, ?_, ?_, ?_⟩
  · intro c appName time
    exact Alike.fingerprint ⟨rfl, fun _ => rfl⟩ toggle
  · intro c properties hperm
    have halike : { c with properties := properties }.Alike c :=
      ⟨rfl, (Table.perm_iff properties c.properties).mp hperm⟩
    exact halike.fingerprint toggle
  · intro c es hsorted hfind
    rw [fingerprint, fingerprintBytes_eq, Table.sorted_eq_of_ascending hsorted hfind]

/-- One context is built of two properties and gets its environment by default. The other one has
the environment set, its properties come in the other order, one of them first with another value,
and it belongs to another application. -/
theorem two_ways_to_one_fingerprint :
    let edits : List Edit := [.field "userId" "42", .property "tenant" "acme",
      .property "plan" "pro", .defaults "billing" "production"]
    let edits' : List Edit := [.property "plan" "free", .time (some .epoch), .field "plan" "pro",
      .field "environment" "production", .property "tenant" "acme", .field "userId" "42",
      .defaults "shop" "staging"]
    (empty.build edits).properties.entries ≠ (empty.build edits').properties.entries ∧
      (empty.build edits).Agrees (empty.build edits') ∧
      (empty.build edits).fingerprint "theme" = (empty.build edits').fingerprint "theme" := by
  intro edits edits'
  have hperm : (empty.build edits').properties.entries.Perm
      (empty.build edits).properties.entries := by decide
  have hagrees : (empty.build edits).Agrees (empty.build edits') :=
    ⟨by decide, by decide, by decide, by decide, (Table.perm_iff _ _).mp hperm.symm⟩
  refine ⟨by decide, hagrees, ?_⟩
  exact (a_fingerprint_forgets_how_its_context_was_built "theme").1 _ _ _ _ hagrees

end Context

end ToggleSync
