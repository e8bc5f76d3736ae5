-- What a state says does not depend on the order in which the members of its objects stand, nor
-- on members that no record knows: they may be put in, repeated and taken out anywhere, and the
-- state is read as before, or refused as before.
import Mathlib.Logic.Relation
import ToggleSync.Engine
import ToggleSync.Proofs.ExactReading
import ToggleSync.Proofs.StateText

namespace ToggleSync

open Json Relation

/-! ## The places of a state -/

/-- The fields of a change next to its tag. -/
def ChangeKind.fieldNames : ChangeKind → List String
  | .hydration => ["eventId", "features"]
  | .updated => ["eventId", "feature"]
  | .removed => ["eventId", "featureName", "project"]

/-- Where in a state a value stands. -/
inductive Site
  | state
  | changes
  | change
  | toggles
  | toggle
  | variants
  | variant
  | payload
  /-- At a field that holds neither record nor list, inside of one, or at no field at all. -/
  | other

namespace Site

/-- The fields that the tag of a change gives it. -/
def taggedFields (tag : Value) : List String :=
  (ChangeKind.ofValue? .byNameOrNumber tag).elim [] ChangeKind.fieldNames

/-- The keys that are known at a place, in an object with these members. -/
def names (p : Site) (ms : List (String × Value)) : List String :=
  match p with
  | .state => ["events", "version", "features"]
  | .change => "type" :: (splitTag (.object ms)).elim [] (taggedFields ·.1)
  | .toggle => Toggle.fieldNames
  | .variant => ["name", "weight", "stickiness", "payload"]
  | .payload => ["type", "value"]
  | _ => []

/-- The place of the value under a key. -/
def field : Site → String → Site
  | .state, "events" => .changes
  | .state, "features" => .toggles
  | .change, "features" => .toggles
  | .change, "feature" => .toggle
  | .toggle, "variants" => .variants
  | .variant, "payload" => .payload
  | _, _ => .other

/-- The keys of the items of an array that is a record: a delta has one item, a collection two. -/
def itemNames (p : Site) (vs : List Value) : List String :=
  match p with
  | .state => if vs.length = 1 then ["events"] else ["version", "features"]
  | .change => "type" :: vs.head?.elim [] taggedFields
  | .toggle => Toggle.fieldNames
  | .variant => ["name", "weight", "stickiness", "payload"]
  | .payload => ["type", "value"]
  | _ => []

/-- The place of an item of an array. -/
def item (p : Site) (vs : List Value) (i : Nat) : Site :=
  match p with
  | .changes => .change
  | .toggles => .toggle
  | .variants => .variant
  | p => (p.itemNames vs)[i]?.elim .other p.field

end Site

/-! ## Rearranging -/

/-- One value is the other with the members of one object in another order, or with one more
member under a key that is not known where the object stands. The object may be the value itself
or anywhere inside of it. -/
inductive Respell : Site → Value → Value → Prop
  | order {p : Site} {ms ms' : List (String × Value)} (h : ms.Perm ms') :
    Respell p (.object ms) (.object ms')
  | unknown {p : Site} {ms : List (String × Value)} {k : String} {v : Value}
    (hk : k ∉ p.names ms) (hv : v.isSound = true) :
    Respell p (.object ms) (.object ((k, v) :: ms))
  | member {p : Site} {ms ms' : List (String × Value)} {k : String} {v w : Value}
    (h : Respell (p.field k) v w) :
    Respell p (.object (ms ++ (k, v) :: ms')) (.object (ms ++ (k, w) :: ms'))
  | item {p : Site} {vs vs' : List Value} {v w : Value}
    (h : Respell (p.item (vs ++ v :: vs') vs.length) v w) :
    Respell p (.array (vs ++ v :: vs')) (.array (vs ++ w :: vs'))

/-- One value is made out of the other by moving members, and by putting in and taking out
members that are not known where they stand. -/
def Rearranged (p : Site) : Value → Value → Prop := EqvGen (Respell p)

namespace Respell

variable {p : Site} {v w : Value}

/-- Only objects and arrays can be respelled. -/
theorem compound (h : Respell p v w) :
    (∃ ms ms', v = .object ms ∧ w = .object ms') ∨ (∃ vs vs', v = .array vs ∧ w = .array vs') := by
  cases h with
  | order h => exact .inl ⟨_, _, rfl, rfl⟩
  | unknown hk hv => exact .inl ⟨_, _, rfl, rfl⟩
  | member h => exact .inl ⟨_, _, rfl, rfl⟩
  | item h => exact .inr ⟨_, _, rfl, rfl⟩

theorem array {vs : List Value} (h : Respell p (.array vs) w) :
    ∃ ws, w = .array ws ∧ ws.length = vs.length := by
  cases h with
  | item h => exact ⟨_, rfl, by simp⟩

end Respell

namespace Json

theorem itemsSound_eq_all (vs : List Value) : itemsSound vs = vs.all Value.isSound := by
  induction vs with
  | nil => rfl
  | cons v vs ih => simp [itemsSound, ih]

theorem membersSound_eq_all (ms : List (String × Value)) :
    membersSound ms = ms.all (·.2.isSound) := by
  induction ms with
  | nil => rfl
  | cons m ms ih => simp [membersSound, ih]

end Json

theorem Respell.isSound_eq {p : Site} {v w : Value} (h : Respell p v w) :
    v.isSound = w.isSound := by
  induction h with
  | order h =>
    rw [Value.isSound, Value.isSound, membersSound_eq_all, membersSound_eq_all]
    exact h.all_eq
  | unknown hk hv => simp [Value.isSound, membersSound, hv]
  | member h ih => simp [Value.isSound, membersSound_eq_all, ih]
  | item h ih => simp [Value.isSound, itemsSound_eq_all, ih]

/-! ## Readers that see no difference -/

/-- A reader takes a value at a place alike, however it is spelled. -/
def Site.Respects {α : Type} (p : Site) (read : Value → Option α) : Prop :=
  ∀ {v w : Value}, Respell p v w → read v = read w

namespace Site

variable {p : Site}

theorem respects_text : p.Respects Value.text? := by
  intro v w h
  rcases h.compound with ⟨ms, ms', rfl, rfl⟩ | ⟨vs, vs', rfl, rfl⟩ <;> rfl

theorem respects_bool : p.Respects Value.bool? := by
  intro v w h
  rcases h.compound with ⟨ms, ms', rfl, rfl⟩ | ⟨vs, vs', rfl, rfl⟩ <;> rfl

theorem respects_uint32 : p.Respects Value.uint32? := by
  intro v w h
  rcases h.compound with ⟨ms, ms', rfl, rfl⟩ | ⟨vs, vs', rfl, rfl⟩ <;> rfl

theorem respects_uint64 : p.Respects Value.uint64? := by
  intro v w h
  rcases h.compound with ⟨ms, ms', rfl, rfl⟩ | ⟨vs, vs', rfl, rfl⟩ <;> rfl

variable {α : Type} {read : Value → Option α}

theorem respects_nullable (hread : p.Respects read) : p.Respects (Value.nullable read) := by
  intro v w h
  have heq : read v = read w := hread h
  rcases h.compound with ⟨ms, ms', rfl, rfl⟩ | ⟨vs, vs', rfl, rfl⟩
  · simp only [Value.nullable, heq]
  · simp only [Value.nullable, heq]

/-- A list is read alike where its items are. -/
theorem respects_list {q : Site} (hitem : ∀ vs i, p.item vs i = q) (hread : q.Respects read) :
    p.Respects (Value.list? read) := by
  intro v w h
  cases h with
  | order h => rfl
  | unknown hk hv => rfl
  | member h => rfl
  | item h =>
    rw [hitem] at h
    simp only [Value.list?, List.mapM_append, List.mapM_cons, hread h]

end Site

/-! ## Fields -/

/-- Nothing twice, or two values of which one may be a respelling of the other. -/
def Near (p : Site) : Option Value → Option Value → Prop := Option.Rel (ReflGen (Respell p))

theorem Near.refl {p : Site} (a : Option Value) : Near p a a := by
  cases a with
  | none => exact .none
  | some v => exact .some .refl

theorem Near.of_eq {p : Site} {a b : Option Value} (h : a = b) : Near p a b := h ▸ .refl a

/-- The same fields, each the same or respelled in its place. -/
structure SameFields (field : String → Site) (f f' : Fields) : Prop where
  positional : f.positional = f'.positional
  found : ∀ n, Near (field n) (f.get? n) (f'.get? n)

namespace SameFields

variable {field : String → Site} {f f' : Fields} {α : Type} {read : Value → Option α}

theorem refl (f : Fields) : SameFields field f f := ⟨rfl, fun _ => .refl _⟩

theorem read_eq {p : Site} {v w : Value} (hread : p.Respects read)
    (h : ReflGen (Respell p) v w) : read v = read w := by
  cases h with
  | refl => rfl
  | single h => exact hread h

theorem required (h : SameFields field f f') {n : String} (hread : (field n).Respects read) :
    f.required n read = f'.required n read := by
  have hfound := h.found n
  unfold Fields.required
  generalize f.get? n = a, f'.get? n = b at hfound
  cases hfound with
  | none => rfl
  | some h => exact read_eq hread h

theorem orElse (h : SameFields field f f') {n : String} {default : α}
    (hread : (field n).Respects read) : f.orElse n default read = f'.orElse n default read := by
  have hfound := h.found n
  unfold Fields.orElse
  generalize f.get? n = a, f'.get? n = b at hfound
  cases hfound with
  | none => rfl
  | some h => exact read_eq hread h

theorem optional (h : SameFields field f f') {n : String} (hread : (field n).Respects read) :
    f.optional n read = f'.optional n read :=
  h.orElse (Site.respects_nullable hread)

end SameFields

theorem bind_eq_of_rel {α β : Type} {r : α → α → Prop} {a b : Option α} {f : α → Option β}
    (h : Option.Rel r a b) (hf : ∀ a b, r a b → f a = f b) : a.bind f = b.bind f := by
  cases h with
  | none => rfl
  | some h => exact hf _ _ h

/-! ## The fields of a respelled record -/

namespace Json

theorem lookup_perm {ms ms' : List (String × Value)} (h : ms.Perm ms') {n : String}
    (hn : keyCount n ms ≤ 1) : ms.lookup n = ms'.lookup n := by
  induction h with
  | nil => rfl
  | cons m h ih =>
    obtain ⟨k, v⟩ := m
    simp only [List.lookup_cons]
    split
    · rfl
    · exact ih (Nat.le_trans (by simp [keyCount, List.countP_cons]) hn)
  | swap m m' ms =>
    obtain ⟨k, v⟩ := m
    obtain ⟨k', v'⟩ := m'
    simp only [List.lookup_cons]
    by_cases hk : n = k
    · -- a key that is looked up stands once
      have hne : n ≠ k' := by
        rintro rfl
        subst hk
        simp [keyCount] at hn
      simp [hk, beq_false_of_ne (hk ▸ hne)]
    · simp [beq_false_of_ne hk]
  | trans h h' ih ih' =>
    have hcount := h.countP_eq (·.1 == n)
    exact (ih hn).trans (ih' (Nat.le_trans (Nat.le_of_eq hcount.symm) hn))

/-- Of the fields of an object none is found twice. -/
theorem keyCount_filter {ns : List String} {ms : List (String × Value)}
    (h : ns.all (keyCount · ms ≤ 1) = true) (n : String) :
    keyCount n (ms.filter (ns.contains ·.1)) ≤ 1 := by
  by_cases hn : n ∈ ns
  · have hle : keyCount n ms ≤ 1 := by simpa using List.all_eq_true.mp h n hn
    exact Nat.le_trans List.filter_sublist.countP_le hle
  · have hnone : keyCount n (ms.filter (ns.contains ·.1)) = 0 := by
      rw [keyCount, List.countP_eq_zero]
      intro m hm hmn
      have hmem : m.1 ∈ ns := by simpa using (List.mem_filter.mp hm).2
      exact hn (beq_iff_eq.mp hmn ▸ hmem)
    omega

end Json

section Records

variable {field : String → Site} {ns : List String}

/-- The fields are the same, or there is no such record either way. -/
def SameRecord (field : String → Site) (ns : List String) (v w : Value) : Prop :=
  Option.Rel (SameFields field) (Fields.ofValue? ns v) (Fields.ofValue? ns w)

theorem sameRecord_order {ms ms' : List (String × Value)} (h : ms.Perm ms') :
    SameRecord field ns (.object ms) (.object ms') := by
  have hcount : ∀ n, keyCount n ms = keyCount n ms' := fun n => h.countP_eq _
  unfold SameRecord Fields.ofValue?
  simp only [← hcount]
  split
  · rename_i hall
    exact .some ⟨rfl, fun n => .of_eq (lookup_perm (h.filter _) (keyCount_filter hall n))⟩
  · exact .none

theorem sameRecord_unknown {ms : List (String × Value)} {k : String} {v : Value} (hk : k ∉ ns) :
    SameRecord field ns (.object ms) (.object ((k, v) :: ms)) := by
  have hcount : ∀ n ∈ ns, keyCount n ((k, v) :: ms) = keyCount n ms := by
    intro n hn
    have hne : k ≠ n := fun h => hk (h ▸ hn)
    simp [keyCount, hne]
  have hall : ns.all (keyCount · ((k, v) :: ms) ≤ 1) = ns.all (keyCount · ms ≤ 1) := by
    rw [Bool.eq_iff_iff, List.all_eq_true, List.all_eq_true]
    exact forall₂_congr fun n hn => by rw [hcount n hn]
  unfold SameRecord Fields.ofValue?
  simp only [hall]
  split
  · exact .some ⟨rfl, fun n => .of_eq (by simp [Fields.get?, hk])⟩
  · exact .none

theorem near_lookup_cons {p : Site} {n : String} {ms ms' : List (String × Value)}
    (m : String × Value) (h : Near p (ms.lookup n) (ms'.lookup n)) :
    Near p ((m :: ms).lookup n) ((m :: ms').lookup n) := by
  obtain ⟨k, u⟩ := m
  simp only [List.lookup_cons]
  split
  · exact .refl _
  · exact h

theorem lookup_member {ms ms' : List (String × Value)} {k : String} {v w : Value}
    (h : Respell (field k) v w) (n : String) :
    Near (field n) ((ms ++ (k, v) :: ms').lookup n) ((ms ++ (k, w) :: ms').lookup n) := by
  induction ms with
  | nil =>
    by_cases hn : n = k
    · subst hn
      simp only [List.nil_append, List.lookup_cons_self]
      exact .some (.single h)
    · have hkey : (n == k) = false := by simpa using hn
      exact .of_eq (by simp [List.lookup_cons, hkey])
  | cons m ms ih => exact near_lookup_cons m ih

theorem sameRecord_member {ms ms' : List (String × Value)} {k : String} {v w : Value}
    (h : Respell (field k) v w) :
    SameRecord field ns (.object (ms ++ (k, v) :: ms')) (.object (ms ++ (k, w) :: ms')) := by
  have hcount : ∀ n, keyCount n (ms ++ (k, v) :: ms') = keyCount n (ms ++ (k, w) :: ms') := by
    simp [keyCount, List.countP_cons]
  unfold SameRecord Fields.ofValue?
  simp only [← hcount]
  split
  · refine .some ⟨rfl, fun n => ?_⟩
    by_cases hk : k ∈ ns
    · simpa [Fields.get?, hk] using lookup_member h n
    · exact .of_eq (by simp [Fields.get?, hk])
  · exact .none

theorem lookup_item {vs vs' : List Value} {v w : Value}
    (h : ∀ n, ns[vs.length]? = some n → Respell (field n) v w) (n : String) :
    Near (field n) ((ns.zip (vs ++ v :: vs')).lookup n) ((ns.zip (vs ++ w :: vs')).lookup n) := by
  induction vs generalizing ns with
  | nil =>
    rcases ns with _ | ⟨k, ns⟩
    · exact .none
    · exact @lookup_member field [] (ns.zip vs') k v w (h k rfl) n
  | cons u vs ih =>
    rcases ns with _ | ⟨k, ns⟩
    · exact .none
    · exact near_lookup_cons (k, u) (ih h)

theorem sameRecord_item {vs vs' : List Value} {v w : Value}
    (h : (vs ++ v :: vs').length ≤ ns.length →
      ∀ n, ns[vs.length]? = some n → Respell (field n) v w) :
    SameRecord field ns (.array (vs ++ v :: vs')) (.array (vs ++ w :: vs')) := by
  have hlength : (vs ++ w :: vs').length = (vs ++ v :: vs').length := by simp
  unfold SameRecord Fields.ofValue?
  simp only [hlength]
  split
  · rename_i hle
    exact .some ⟨rfl, lookup_item (h hle)⟩
  · exact .none

end Records

/-- A record that knows no keys but those of its place, and takes the items of an array for its
fields in order, has the same fields however it is spelled. -/
theorem Respell.sameRecord {p : Site} {v w : Value} (h : Respell p v w) {ns : List String}
    (hnames : ∀ ms, ∀ n ∈ ns, n ∈ p.names ms)
    (hitem : ∀ vs, v = .array vs → vs.length ≤ ns.length →
      ∀ i n, ns[i]? = some n → i < vs.length → p.item vs i = p.field n) :
    SameRecord p.field ns v w := by
  cases h with
  | order h => exact sameRecord_order h
  | unknown hk hv => exact sameRecord_unknown fun hn => hk (hnames _ _ hn)
  | member h => exact sameRecord_member h
  | item h =>
    refine sameRecord_item fun hle n hn => ?_
    rwa [hitem _ rfl hle _ n hn (by simp)] at h

/-- A record whose place always knows the same keys. -/
theorem Respell.sameRecord_fixed {p : Site} {v w : Value} (h : Respell p v w) (ns : List String)
    (hnames : ∀ ms, p.names ms = ns) (hitem : ∀ vs i, p.item vs i = ns[i]?.elim .other p.field) :
    SameRecord p.field ns v w := by
  refine h.sameRecord (fun ms n hn => ?_) (fun vs _ _ i n hn _ => ?_)
  · rwa [hnames]
  · rw [hitem, hn]
    rfl

/-! ## The records of a state -/

theorem respects_payload : Site.payload.Respects Payload.ofValue? := by
  intro v w h
  have hrecord := h.sameRecord_fixed ["type", "value"] (fun _ => rfl) (fun _ _ => rfl)
  refine bind_eq_of_rel hrecord fun f f' hf => ?_
  simp only [hf.required Site.respects_text]

theorem respects_variant : Site.variant.Respects WeightedVariant.ofValue? := by
  intro v w h
  have hrecord := h.sameRecord_fixed ["name", "weight", "stickiness", "payload"]
    (fun _ => rfl) (fun _ _ => rfl)
  refine bind_eq_of_rel hrecord fun f f' hf => ?_
  simp only [hf.required Site.respects_text, hf.orElse Site.respects_uint32,
    hf.optional Site.respects_text, hf.optional (n := "payload") respects_payload]

theorem respects_toggle : Site.toggle.Respects Toggle.ofValue? := by
  intro v w h
  have hrecord := h.sameRecord_fixed Toggle.fieldNames (fun _ => rfl) (fun _ _ => rfl)
  have hvariants : Site.variants.Respects (Value.list? WeightedVariant.ofValue?) :=
    Site.respects_list (fun _ _ => rfl) respects_variant
  refine bind_eq_of_rel hrecord fun f f' hf => ?_
  simp only [hf.required Site.respects_text, hf.orElse Site.respects_bool,
    hf.optional Site.respects_text, hf.orElse (n := "variants") hvariants]

theorem respects_toggles : Site.toggles.Respects (Value.list? Toggle.ofValue?) :=
  Site.respects_list (fun _ _ => rfl) respects_toggle

/-! ## Changes -/

/-- The tags are the same and the rest has the same fields, or neither tag is one. -/
def SameChange (a b : Value × Value) : Prop :=
  (a.1 = b.1 ∧ ∀ kind, ChangeKind.ofValue? .byNameOrNumber a.1 = some kind →
      SameRecord Site.change.field kind.fieldNames a.2 b.2) ∨
    (ChangeKind.ofValue? .byNameOrNumber a.1 = none ∧
      ChangeKind.ofValue? .byNameOrNumber b.1 = none)

/-- No tag can be respelled. -/
theorem kind_of_respell {p : Site} {v w : Value} (h : Respell p v w) :
    ChangeKind.ofValue? .byNameOrNumber v = none ∧
      ChangeKind.ofValue? .byNameOrNumber w = none := by
  rcases h.compound with ⟨ms, ms', rfl, rfl⟩ | ⟨vs, vs', rfl, rfl⟩ <;> exact ⟨rfl, rfl⟩

theorem splitTag_order {ms ms' : List (String × Value)} (h : ms.Perm ms') :
    Option.Rel SameChange (splitTag (.object ms)) (splitTag (.object ms')) := by
  have htags := h.filter (·.1 == "type")
  have hrest := h.filter (·.1 != "type")
  unfold splitTag
  simp only
  split
  · rename_i k tag heq
    rw [heq] at htags
    rw [List.singleton_perm.mp htags |>.symm]
    exact .some (.inl ⟨rfl, fun kind _ => sameRecord_order hrest⟩)
  · rename_i hmany
    split
    · rename_i k tag heq
      rw [heq] at htags
      exact absurd (List.perm_singleton.mp htags) (hmany k tag)
    · exact .none

/-- Where the tags are the same only the rest is to be looked at. -/
theorem splitTag_of_tags {ms ms' : List (String × Value)}
    (htags : ms'.filter (·.1 == "type") = ms.filter (·.1 == "type"))
    (hrest : ∀ tag body, splitTag (.object ms) = some (tag, body) →
      ∀ kind, ChangeKind.ofValue? .byNameOrNumber tag = some kind →
        SameRecord Site.change.field kind.fieldNames (.object (ms.filter (·.1 != "type")))
          (.object (ms'.filter (·.1 != "type")))) :
    Option.Rel SameChange (splitTag (.object ms)) (splitTag (.object ms')) := by
  unfold splitTag at hrest ⊢
  simp only [htags] at hrest ⊢
  split
  · rename_i heq
    simp only [heq] at hrest
    exact .some (.inl ⟨rfl, hrest _ _ rfl⟩)
  · exact .none

theorem splitTag_unknown {ms : List (String × Value)} {k : String} {v : Value}
    (hk : k ∉ Site.change.names ms) :
    Option.Rel SameChange (splitTag (.object ms)) (splitTag (.object ((k, v) :: ms))) := by
  have htype : k ≠ "type" := List.ne_of_not_mem_cons hk
  refine splitTag_of_tags (by simp [htype]) fun tag body hsplit kind hkind => ?_
  have hrest : k ∉ kind.fieldNames := by
    simpa [Site.names, hsplit, Site.taggedFields, hkind, htype] using hk
  simpa [htype] using sameRecord_unknown hrest

theorem splitTag_member {ms ms' : List (String × Value)} {k : String} {v w : Value}
    (h : Respell (Site.change.field k) v w) :
    Option.Rel SameChange (splitTag (.object (ms ++ (k, v) :: ms')))
      (splitTag (.object (ms ++ (k, w) :: ms'))) := by
  by_cases htype : k = "type"
  · subst htype
    simp only [splitTag, List.filter_append, List.filter_cons_of_pos, beq_self_eq_true]
    -- the tag is respelled: it is one of many, or no tag on either side
    generalize ms.filter (·.1 == "type") = ts, ms'.filter (·.1 == "type") = ts'
    rcases ts with _ | ⟨t, _ | ⟨t', ts⟩⟩ <;> rcases ts' with _ | ⟨u, ts'⟩
    · exact .some (.inr (kind_of_respell h))
    all_goals exact .none
  · refine splitTag_of_tags (by simp [htype]) fun tag body _ kind _ => ?_
    simpa [htype] using sameRecord_member h

theorem splitTag_item {vs vs' : List Value} {v w : Value}
    (h : Respell (Site.change.item (vs ++ v :: vs') vs.length) v w) :
    Option.Rel SameChange (splitTag (.array (vs ++ v :: vs')))
      (splitTag (.array (vs ++ w :: vs'))) := by
  rcases vs with _ | ⟨tag, vs⟩
  · exact .some (.inr (kind_of_respell h))
  · refine .some (.inl ⟨rfl, fun kind hkind => sameRecord_item fun _ n hn => ?_⟩)
    simpa [Site.item, Site.itemNames, Site.taggedFields, hkind, hn] using h

theorem splitTag_respell {v w : Value} (h : Respell .change v w) :
    Option.Rel SameChange (splitTag v) (splitTag w) := by
  cases h with
  | order h => exact splitTag_order h
  | unknown hk hv => exact splitTag_unknown hk
  | member h => exact splitTag_member h
  | item h => exact splitTag_item h

theorem respects_change : Site.change.Respects (Change.ofValue? .byNameOrNumber) := by
  intro v w h
  unfold Change.ofValue?
  rw [← h.isSound_eq]
  split
  · refine bind_eq_of_rel (splitTag_respell h) fun a b hab => ?_
    obtain ⟨tag, body⟩ := a
    obtain ⟨tag', body'⟩ := b
    rcases hab with ⟨rfl, hbody⟩ | ⟨htag, htag'⟩
    · cases hkind : ChangeKind.ofValue? .byNameOrNumber tag with
      | none => simp [hkind]
      | some kind =>
        have hrecord := hbody kind hkind
        simp only [hkind]
        cases kind with
        | hydration =>
          refine bind_eq_of_rel hrecord fun f f' hf => ?_
          simp only [hf.required Site.respects_uint64,
            hf.required (n := "features") respects_toggles]
        | updated =>
          refine bind_eq_of_rel hrecord fun f f' hf => ?_
          simp only [hf.required Site.respects_uint64, hf.required (n := "feature") respects_toggle]
        | removed =>
          refine bind_eq_of_rel hrecord fun f f' hf => ?_
          simp only [hf.required Site.respects_uint64, hf.required Site.respects_text,
            hf.optional Site.respects_text]
    · simp [htag, htag']
  · rfl

theorem respects_changes : Site.changes.Respects (Value.list? (Change.ofValue? .byNameOrNumber)) :=
  Site.respects_list (fun _ _ => rfl) respects_change

/-! ## Both shapes -/

theorem respects_delta : Site.state.Respects (deltaOfValue? .byNameOrNumber) := by
  intro v w h
  have hrecord : SameRecord Site.state.field ["events"] v w := by
    refine h.sameRecord (by simp [Site.names]) (fun vs _ hle i n hn hi => ?_)
    have hone : vs.length = 1 := by
      simp only [List.length_singleton] at hle
      omega
    simp [Site.item, Site.itemNames, hone, hn]
  refine bind_eq_of_rel hrecord fun f f' hf => ?_
  simp only [hf.required (n := "events") respects_changes]

/-- An array of one item has no place for toggles. -/
theorem collection_of_one (v : Value) : Collection.ofValue? (.array [v]) = none := by
  show (v.uint32?.bind fun _ => none) = none
  exact Option.bind_fun_none _

theorem respects_collection : Site.state.Respects Collection.ofValue? := by
  intro v w h
  by_cases hone : ∃ vs, v = .array vs ∧ vs.length = 1
  · obtain ⟨vs, rfl, hlength⟩ := hone
    obtain ⟨x, rfl⟩ := List.length_eq_one_iff.mp hlength
    obtain ⟨ws, rfl, hws⟩ := h.array
    obtain ⟨y, rfl⟩ := List.length_eq_one_iff.mp (hws.trans hlength)
    rw [collection_of_one, collection_of_one]
  · have hrecord : SameRecord Site.state.field ["version", "features"] v w := by
      refine h.sameRecord (by simp [Site.names]) (fun vs hv _ i n hn _ => ?_)
      have hlength : vs.length ≠ 1 := fun hl => hone ⟨vs, hv, hl⟩
      simp [Site.item, Site.itemNames, hlength, hn]
    refine bind_eq_of_rel hrecord fun f f' hf => ?_
    simp only [hf.orElse Site.respects_uint32, hf.required (n := "features") respects_toggles]

theorem respects_update : Site.state.Respects Update.ofValue? := by
  intro v w h
  simp only [Update.ofValue?, respects_delta h, respects_collection h]

/-! ## The text of a state -/

theorem read_of_value {text : String} {v : Value} (h : Value.read text = .ok v) :
    Update.read text = (Update.ofValue? v).elim (.error (.malformed .shape)) .ok := by
  obtain ⟨r, hfront, hend⟩ := readFront_of_read h
  unfold Update.read
  simp only [not_blank_of_readFront hfront, hfront, hend]
  cases Update.ofValue? v <;> rfl

theorem isSound_of_read {text : String} {v : Value} (h : Value.read text = .ok v) :
    v.isSound = true := by
  obtain ⟨r, hfront, _⟩ := readFront_of_read h
  exact isSound_of_readFront hfront

theorem ofValue?_of_rearranged {v w : Value} (h : Rearranged .state v w) :
    Update.ofValue? v = Update.ofValue? w := by
  induction h with
  | rel _ _ h => exact respects_update h
  | refl _ => rfl
  | symm _ _ _ ih => exact ih.symm
  | trans _ _ _ _ _ ih ih' => exact ih.trans ih'

/-- A state is found in every rearrangement of its own text. -/
theorem read_of_rearranged {u : Update} {text : String} {v : Value} (h : Value.read text = .ok v)
    (hsame : Rearranged .state u.toValue v) : Update.read text = .ok u := by
  rw [read_of_value h, ← ofValue?_of_rearranged hsame, ofValue?_update]
  rfl

/-- Members that no record knows, and the order of members, never count in the text of a state.
Take two JSON texts, the value of one made out of that of the other by moving members of objects
and by putting in and taking out members that are not known where they stand, at any depth, under
any key, once or again, with any value that is read, which is any sound one. Then both are the same
state in the same shape, or neither has a shape, and an engine holds the same after either. And
every state is read from whatever is made so out of its own text. -/
theorem unknown_members_and_their_order_never_count :
    (∀ text v, Value.read text = .ok v → v.isSound = true) ∧
      (∀ {text text' : String} {v v' : Value},
        Value.read text = .ok v → Value.read text' = .ok v' → Rearranged .state v v' →
        ((∃ u, Update.read text = .ok u ∧ Update.read text' = .ok u) ∨
          (Update.read text = .error (.malformed .shape) ∧
            Update.read text' = .error (.malformed .shape))) ∧
        ∀ e : Engine, e.takeState text = e.takeState text') ∧
      ∀ {u : Update} {text : String} {v : Value},
        Value.read text = .ok v → Rearranged .state u.toValue v → Update.read text = .ok u := by
  refine ⟨fun _ _ h => isSound_of_read h, ?_, read_of_rearranged⟩
  intro text text' v v' h h' hsame
  have hread := read_of_value h
  have hread' := read_of_value h'
  rw [← ofValue?_of_rearranged hsame] at hread'
  constructor
  · cases hu : Update.ofValue? v with
    | none => exact .inr ⟨by rw [hread, hu]; rfl, by rw [hread', hu]; rfl⟩
    | some u => exact .inl ⟨u, by rw [hread, hu]; rfl, by rw [hread', hu]; rfl⟩
  · intro e
    rw [Engine.takeState, Engine.takeState, hread, hread']

/-- One toggle is removed. -/
def removal : Value :=
  .object [("events", .array [.object
    [("type", .text "feature-removed"), ("eventId", .natural 7), ("featureName", .text "a")]])]

/-- The same with notes, with a member that other changes know, and with the tag at the end. -/
def annotatedRemoval : Value :=
  .object [("note", .null), ("note", .natural 1), ("events", .array [.object
    [("feature", .object []), ("featureName", .text "a"), ("eventId", .natural 7),
      ("type", .text "feature-removed")]])]

theorem rearranged_removal : Rearranged .state removal annotatedRemoval := by
  -- a `feature` is not known to a removal
  have hfeature : "feature" ∉ Site.change.names [("featureName", .text "a"),
      ("eventId", .natural 7), ("type", .text "feature-removed")] := by decide
  have hunknown := Respell.unknown hfeature (show (Value.object []).isSound = true from rfl)
  have horder : Respell .change (.object [("type", .text "feature-removed"),
      ("eventId", .natural 7), ("featureName", .text "a")]) (.object [("featureName", .text "a"),
      ("eventId", .natural 7), ("type", .text "feature-removed")]) :=
    .order (List.reverse_perm _).symm
  have inside : ∀ {c c' : Value}, Respell .change c c' →
      Rearranged .state (.object [("events", .array [c])]) (.object [("events", .array [c'])]) :=
    fun h => .rel _ _
      (@Respell.member .state [] [] "events" _ _ (@Respell.item .changes [] [] _ _ h))
  refine .trans _ _ _ (inside horder) (.trans _ _ _ (inside hunknown) ?_)
  refine .trans _ _ _ (.rel _ _ (.unknown (k := "note") (v := .natural 1) (by decide) rfl)) ?_
  exact .rel _ _ (.unknown (by decide) rfl)

theorem notes_do_not_change_a_removal :
    removal.render = "\x7b\"events\":[\x7b\"type\":\"feature-removed\",\"eventId\":7," ++
      "\"featureName\":\"a\"\x7d]\x7d" ∧
    annotatedRemoval.render = "\x7b\"note\":null,\"note\":1," ++
      "\"events\":[\x7b\"feature\":\x7b\x7d," ++
      "\"featureName\":\"a\",\"eventId\":7,\"type\":\"feature-removed\"\x7d]\x7d" ∧
    Update.read removal.render = .ok (.delta [.removed 7 "a" none]) ∧
    Update.read annotatedRemoval.render = .ok (.delta [.removed 7 "a" none]) := by
  have hread : Value.read removal.render = .ok removal :=
    read_of_fits (by simp [removal, maxDepth, Value.Fits, UInt64.size])
  have hread' : Value.read annotatedRemoval.render = .ok annotatedRemoval :=
    read_of_fits (by simp [annotatedRemoval, maxDepth, Value.Fits, UInt64.size])
  have hupdate : Update.read removal.render = .ok (.delta [.removed 7 "a" none]) := by
    rw [read_of_value hread]
    rfl
  refine ⟨by decide +kernel, by decide +kernel, hupdate, ?_⟩
  obtain ⟨⟨u, hu, hu'⟩ | ⟨hbad, _⟩, _⟩ :=
    unknown_members_and_their_order_never_count.2.1 hread hread' rearranged_removal
  · rw [hu', ← hu, hupdate]
  · rw [hupdate] at hbad
    cases hbad

end ToggleSync
