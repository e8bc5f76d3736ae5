-- What is written is read back: contexts, variants, counts, reports, modes and the messages of an
-- event stream are the same after their text was read, and a text that was read and written
-- again is written the same way ever after.
import ToggleSync.Proofs.ExactReading
import ToggleSync.Proofs.InstantText
import ToggleSync.Proofs.StateText
import ToggleSync.Wire.Report

namespace ToggleSync

open Json

/-! ## Tables -/

namespace Table

variable {α : Type}

theorem putEntry_of_new {key : String} {es : List (String × α)} (a : α)
    (h : key ∉ es.map Prod.fst) : putEntry key a es = es ++ [(key, a)] := by
  induction es with
  | nil => rfl
  | cons e es ih =>
    rw [List.map_cons, List.mem_cons, not_or] at h
    rw [putEntry, if_neg (Ne.symm h.1), ih h.2, List.cons_append]

theorem foldl_put {t : Table α} {es : List (String × α)}
    (h : ((t.entries ++ es).map Prod.fst).Nodup) :
    (es.foldl (fun t e => t.put e.1 e.2) t).entries = t.entries ++ es := by
  induction es generalizing t with
  | nil => simp
  | cons e es ih =>
    have hnew : e.1 ∉ t.entries.map Prod.fst := by
      rw [List.map_append, List.nodup_append] at h
      exact fun hmem => h.2.2 _ hmem _ List.mem_cons_self rfl
    have hput : (t.put e.1 e.2).entries = t.entries ++ [e] := putEntry_of_new e.2 hnew
    have hassoc : (t.put e.1 e.2).entries ++ es = t.entries ++ e :: es := by simp [hput]
    rw [List.foldl_cons, ih (by rwa [hassoc]), hassoc]

/-- A table is that of its entries. -/
theorem ofList_entries (t : Table α) : ofList t.entries = t := by
  have hentries : (ofList t.entries).entries = t.entries := foldl_put (t := empty) t.distinct
  obtain ⟨es, hes⟩ := t
  simp only at hentries ⊢
  generalize ofList es = t at hentries
  cases t
  cases hentries
  rfl

theorem ofValue?_toValue {read : Value → Option α} {write : α → Value}
    (h : ∀ a, read (write a) = some a) (t : Table α) :
    Table.ofValue? read (t.toValue write) = some t := by
  have hentries : (t.entries.map fun e => (e.1, write e.2)).mapM
      (fun m => (read m.2).map (m.1, ·)) = some t.entries := by
    induction t.entries with
    | nil => rfl
    | cons e es ih => simp [List.mapM_cons, h, ih]
  simp only [Table.toValue, Table.ofValue?, hentries, Option.map_some, ofList_entries]

theorem fits_toValue {depth : Nat} {write : α → Value} (h : ∀ a, (write a).Fits depth)
    (t : Table α) : (t.toValue write).Fits (depth + 1) := by
  intro m hm
  obtain ⟨e, _, rfl⟩ := List.mem_map.mp hm
  exact h e.2

end Table

/-! ## What is written fits -/

theorem fits_nullOr {α : Type} {depth : Nat} {write : α → Value} (h : ∀ a, (write a).Fits depth)
    (a : Option α) : (nullOr write a).Fits depth := by
  cases a with
  | none => cases depth <;> trivial
  | some a => exact h a

theorem fits_context (depth : Nat) (c : Context) : c.toValue.Fits (depth + 2) := by
  intro m hm
  simp only [List.mem_cons, List.not_mem_nil, or_false] at hm
  rcases hm with rfl | rfl | rfl | rfl | rfl | rfl | rfl
  iterate 5 exact fits_nullOr (fits_text _) _
  · exact fits_nullOr (fun i : Instant => fits_text _ i.render) _
  · exact Table.fits_toValue (fits_text _) _

theorem fits_variant (depth : Nat) (v : Variant) : v.toValue.Fits (depth + 2) := by
  intro m hm
  simp only [List.mem_append, List.mem_cons, List.not_mem_nil, or_false] at hm
  rcases hm with (rfl | rfl | rfl) | hm
  · exact fits_text _ _
  · exact fits_bool _ _
  · exact fits_bool _ _
  · exact fits_memberOf (fits_payload _) _ m hm

theorem fits_count (depth : Nat) (c : Count) : c.toValue.Fits (depth + 2) := by
  intro m hm
  simp only [List.mem_cons, List.not_mem_nil, or_false] at hm
  rcases hm with rfl | rfl | rfl
  · exact fits_ofUInt64 _ _
  · exact fits_ofUInt64 _ _
  · exact Table.fits_toValue (fits_ofUInt64 _) _

theorem fits_usage (depth : Nat) (u : Usage) : u.toValue.Fits (depth + 4) := by
  intro m hm
  simp only [List.mem_cons, List.not_mem_nil, or_false] at hm
  rcases hm with rfl | rfl | rfl
  · exact fits_text _ _
  · exact fits_text _ _
  · exact Table.fits_toValue (fits_count depth) _

theorem fits_metrics (depth : Nat) (m : Metrics) : m.toValue.Fits (depth + 5) := by
  intro e he
  simp only [List.mem_cons, List.not_mem_nil, or_false] at he
  rcases he with rfl | rfl | rfl | rfl
  iterate 3 exact fits_text _ _
  exact fits_usage depth _

theorem fits_registration (depth : Nat) (r : Registration) : r.toValue.Fits (depth + 2) := by
  intro m hm
  simp only [List.mem_cons, List.not_mem_nil, or_false] at hm
  rcases hm with rfl | rfl | rfl | rfl | rfl | rfl | rfl
  iterate 4 exact fits_text _ _
  · exact fits_array (fits_text _) _
  · exact fits_text _ _
  · exact fits_ofUInt64 _ _

/-! ## What is written is read -/

theorem ofValue?_instant {i : Instant} (h : i.OnClock) : Instant.ofValue? i.toValue = some i := by
  rw [Instant.toValue, Instant.ofValue?, Value.text?, Option.bind_some, Instant.read?_render h]

theorem nullable_text (s : Option String) : (nullOr .text s).nullable Value.text? = some s := by
  cases s <;> rfl

theorem nullable_instant {i : Option Instant} (h : ∀ j ∈ i, j.OnClock) :
    (nullOr Instant.toValue i).nullable Instant.ofValue? = some i := by
  cases i with
  | none => rfl
  | some i =>
    have hread : (nullOr Instant.toValue (some i)).nullable Instant.ofValue? =
        (Instant.ofValue? i.toValue).map some := rfl
    rw [hread, ofValue?_instant (h i rfl), Option.map_some]

theorem ofValue?_context {c : Context} (h : ∀ i ∈ c.currentTime, i.OnClock) :
    Context.ofValue? c.toValue = some c := by
  obtain ⟨userId, sessionId, remoteAddress, environment, appName, currentTime, properties⟩ := c
  have hread : Context.ofValue? (Context.toValue
      ⟨userId, sessionId, remoteAddress, environment, appName, currentTime, properties⟩) =
      ((nullOr .text userId).nullable Value.text?).bind fun a =>
      ((nullOr .text sessionId).nullable Value.text?).bind fun b =>
      ((nullOr .text remoteAddress).nullable Value.text?).bind fun c =>
      ((nullOr .text environment).nullable Value.text?).bind fun d =>
      ((nullOr .text appName).nullable Value.text?).bind fun e =>
      ((nullOr Instant.toValue currentTime).nullable Instant.ofValue?).bind fun t =>
      (Table.ofValue? Value.text? (properties.toValue .text)).bind fun ps =>
        some ⟨a, b, c, d, e, t, ps⟩ := rfl
  have hproperties : Table.ofValue? Value.text? (properties.toValue .text) = some properties :=
    Table.ofValue?_toValue (fun _ : String => rfl) properties
  simp only [hread, nullable_text, nullable_instant h, hproperties, Option.bind_some]

theorem ofValue?_variant (v : Variant) : Variant.ofValue? v.toValue = some v := by
  obtain ⟨name, enabled, featureEnabled, payload⟩ := v
  cases payload <;> rfl

theorem ofValue?_count (c : Count) : Count.ofValue? c.toValue = some c := by
  obtain ⟨yes, no, variants⟩ := c
  have hread : Count.ofValue? (Count.toValue ⟨yes, no, variants⟩) =
      (Value.ofUInt64 yes).uint64?.bind fun y => (Value.ofUInt64 no).uint64?.bind fun n =>
        (Table.ofValue? Value.uint64? (variants.toValue .ofUInt64)).bind fun vs =>
          some ⟨y, n, vs⟩ := rfl
  rw [hread, uint64?_ofUInt64, uint64?_ofUInt64, Table.ofValue?_toValue uint64?_ofUInt64]
  rfl

theorem ofValue?_usage {u : Usage} (hstart : u.start.OnClock) (hstop : u.stop.OnClock) :
    Usage.ofValue? u.toValue = some u := by
  have hread : ∀ start stop toggles : Value,
      Usage.ofValue? (.object [("start", start), ("stop", stop), ("toggles", toggles)]) =
      (Instant.ofValue? start).bind fun a => (Instant.ofValue? stop).bind fun b =>
        (Table.ofValue? Count.ofValue? toggles).bind fun ts => some ⟨a, b, ts⟩ :=
    fun _ _ _ => rfl
  rw [Usage.toValue, hread, ofValue?_instant hstart, ofValue?_instant hstop,
    Table.ofValue?_toValue ofValue?_count]
  simp only [Option.bind_some]

theorem ofValue?_metrics {m : Metrics} (hstart : m.bucket.start.OnClock)
    (hstop : m.bucket.stop.OnClock) : Metrics.ofValue? m.toValue = some m := by
  have hread : ∀ (appName instanceId connectionId : String) (bucket : Value),
      Metrics.ofValue? (.object [("appName", .text appName), ("instanceId", .text instanceId),
        ("connectionId", .text connectionId), ("bucket", bucket)]) =
      (Usage.ofValue? bucket).bind fun u => some ⟨appName, instanceId, connectionId, u⟩ :=
    fun _ _ _ _ => rfl
  rw [Metrics.toValue, hread, ofValue?_usage hstart hstop]
  simp only [Option.bind_some]

theorem ofValue?_registration {r : Registration} (h : r.started.OnClock) :
    Registration.ofValue? r.toValue = some r := by
  have hread : ∀ (appName instanceId connectionId sdkVersion : String)
      (strategies started interval : Value),
      Registration.ofValue? (.object [("appName", .text appName), ("instanceId", .text instanceId),
        ("connectionId", .text connectionId), ("sdkVersion", .text sdkVersion),
        ("strategies", strategies), ("started", started), ("intervalMs", interval)]) =
      (strategies.list? Value.text?).bind fun ss => (Instant.ofValue? started).bind fun t =>
        interval.uint64?.bind fun n =>
          some ⟨appName, instanceId, connectionId, sdkVersion, ss, t, n⟩ :=
    fun _ _ _ _ _ _ _ => rfl
  have hstrategies : (Value.array (r.strategies.map .text)).list? Value.text? =
      some r.strategies := list?_map (fun _ : String => rfl) r.strategies
  rw [Registration.toValue, hread, hstrategies, ofValue?_instant h, uint64?_ofUInt64]
  simp only [Option.bind_some]

theorem ofValue?_mode (m : Mode) : Mode.ofValue? m.toValue = some m := by
  cases m <;> rfl

/-! ## Only instants on the clock are read -/

theorem onClock_of_value {v : Value} {i : Instant} (h : Instant.ofValue? v = some i) :
    i.OnClock := by
  obtain ⟨text, _, htext⟩ := Option.bind_eq_some_iff.mp h
  exact Instant.onClock_of_read? htext

theorem onClock_of_nullable {v : Value} {t : Option Instant}
    (h : v.nullable Instant.ofValue? = some t) : ∀ i ∈ t, i.OnClock := by
  unfold Value.nullable at h
  split at h
  · cases h
    exact fun _ hi => nomatch hi
  · obtain ⟨j, hj, rfl⟩ := Option.map_eq_some_iff.mp h
    intro i hi
    cases hi
    exact onClock_of_value hj

theorem onClock_of_placed {f : Fields} {name : String} {t : Option Instant}
    (h : f.placed name Instant.ofValue? = some t) : ∀ i ∈ t, i.OnClock := by
  unfold Fields.placed at h
  split at h
  · exact onClock_of_nullable h
  · split at h
    · cases h
    · cases h
      exact fun _ hi => nomatch hi

theorem onClock_of_required {f : Fields} {name : String} {i : Instant}
    (h : f.required name Instant.ofValue? = some i) : i.OnClock := by
  obtain ⟨v, _, hv⟩ := Option.bind_eq_some_iff.mp h
  exact onClock_of_value hv

theorem onClock_of_context {v : Value} {c : Context} (h : Context.ofValue? v = some c) :
    ∀ i ∈ c.currentTime, i.OnClock := by
  simp only [Context.ofValue?, Option.bind_eq_bind, Option.bind_eq_some_iff] at h
  obtain ⟨_, _, _, _, _, _, _, _, _, _, _, _, _, htime, _, _, h⟩ := h
  cases h
  exact onClock_of_placed htime

theorem onClock_of_usage {v : Value} {u : Usage} (h : Usage.ofValue? v = some u) :
    u.start.OnClock ∧ u.stop.OnClock := by
  simp only [Usage.ofValue?, Option.bind_eq_bind, Option.bind_eq_some_iff] at h
  obtain ⟨_, _, _, hstart, _, hstop, _, _, h⟩ := h
  cases h
  exact ⟨onClock_of_required hstart, onClock_of_required hstop⟩

theorem onClock_of_metrics {v : Value} {m : Metrics} (h : Metrics.ofValue? v = some m) :
    m.bucket.start.OnClock ∧ m.bucket.stop.OnClock := by
  simp only [Metrics.ofValue?, Fields.required, Option.bind_eq_bind, Option.bind_eq_some_iff] at h
  obtain ⟨_, _, _, _, _, _, _, _, _, ⟨_, _, hbucket⟩, h⟩ := h
  cases h
  exact onClock_of_usage hbucket

theorem onClock_of_registration {v : Value} {r : Registration}
    (h : Registration.ofValue? v = some r) : r.started.OnClock := by
  simp only [Registration.ofValue?, Option.bind_eq_bind, Option.bind_eq_some_iff] at h
  obtain ⟨_, _, _, _, _, _, _, _, _, _, _, _, _, hstarted, _, _, h⟩ := h
  cases h
  exact onClock_of_required hstarted

/-! ## Messages -/

namespace StreamMessage

def knownEvents : List String := ["flags-connected", "flags-updated", "fetch-mode"]

theorem event_ofEvent (event data : String) : (ofEvent event data).event = event := by
  unfold ofEvent
  repeat' split
  all_goals simp_all [StreamMessage.event]

theorem isKnown_ofEvent (event data : String) :
    (ofEvent event data).isKnown = true ↔ event ∈ knownEvents := by
  unfold ofEvent
  repeat' split
  all_goals simp_all [isKnown, knownEvents]

theorem ofEvent_of_known {m : StreamMessage} (h : m.isKnown = true) :
    ofEvent m.event m.data = m := by
  cases m with
  | unknown event data => cases h
  | _ => rfl

end StreamMessage

theorem toValue?_of_known {m : StreamMessage} (h : m.isKnown = true) :
    m.toValue? = some (.object [("event", .text m.event), ("data", .text m.data)]) :=
  if_pos h

theorem ofValue?_message {m : StreamMessage} (h : m.isKnown = true) :
    StreamMessage.ofValue? (.object [("event", .text m.event), ("data", .text m.data)]) =
      some m := by
  have hread : ∀ event data : String,
      StreamMessage.ofValue? (.object [("event", .text event), ("data", .text data)]) =
      if (StreamMessage.ofEvent event data).isKnown then some (.ofEvent event data) else none :=
    fun _ _ => rfl
  rw [hread, StreamMessage.ofEvent_of_known h, if_pos h]

theorem isKnown_of_value {v : Value} {m : StreamMessage} (h : StreamMessage.ofValue? v = some m) :
    m.isKnown = true := by
  simp only [StreamMessage.ofValue?, Option.bind_eq_bind, Option.bind_eq_some_iff] at h
  obtain ⟨_, _, _, _, _, _, h⟩ := h
  split at h
  · rename_i hknown
    cases h
    exact hknown
  · cases h

/-! ## Texts -/

/-- What a text stands for to one of the readers of values. -/
def decode {α : Type} (read : Value → Option α) (text : String) : Option α :=
  (Value.skim? text).bind read

theorem decode_render {α : Type} {read : Value → Option α} {v : Value} (h : v.Fits maxDepth) :
    decode read v.render = read v := by
  rw [decode, skim?_render h, Option.bind_some]

/-- The text of every good value is read back as that value, and only good values are read. So a
text that was read has a normal form: it is written again, and from then on always the same. -/
structure ReadsBack {α : Type} (write : α → Value) (read : Value → Option α) (good : α → Prop) :
    Prop where
  back : ∀ a, good a → decode read (write a).render = some a
  good : ∀ text a, decode read text = some a → good a
  normal : ∀ text a, decode read text = some a →
    (decode read (write a).render).map (fun b => (write b).render) = some (write a).render

theorem readsBack {α : Type} {write : α → Value} {read : Value → Option α} {good : α → Prop}
    (hfits : ∀ a, (write a).Fits maxDepth) (hback : ∀ a, good a → read (write a) = some a)
    (hgood : ∀ v a, read v = some a → good a) : ReadsBack write read good := by
  have back : ∀ a, good a → decode read (write a).render = some a := fun a ha => by
    rw [decode_render (hfits a), hback a ha]
  have good : ∀ text a, decode read text = some a → good a := fun text a h => by
    obtain ⟨v, _, hv⟩ := Option.bind_eq_some_iff.mp h
    exact hgood v a hv
  refine ⟨back, good, fun text a h => ?_⟩
  rw [back a (good text a h), Option.map_some]

/-- The values that go over the wire are read back from their texts as they were: contexts,
variants, registrations, reports, usage, counts, modes and the known messages of a stream. Any
texts, 64-bit counts and tables are in them, each table in the order of its entries, which is any,
and any instants on the clock, of which each has a text of its own. A text of theirs that was read
is from then on always written the same. A message keeps the name of its event; it has a text
exactly if that is one of the three known names, and is then read back from it. -/
theorem wire_values_are_read_back :
    (∀ i : Instant, Instant.read? i.render = some i ↔ i.OnClock) ∧
    ReadsBack Context.toValue Context.ofValue? (fun c => ∀ i ∈ c.currentTime, i.OnClock) ∧
    ReadsBack Variant.toValue Variant.ofValue? (fun _ => True) ∧
    ReadsBack Registration.toValue Registration.ofValue? (·.started.OnClock) ∧
    ReadsBack Metrics.toValue Metrics.ofValue?
      (fun m => m.bucket.start.OnClock ∧ m.bucket.stop.OnClock) ∧
    ReadsBack Usage.toValue Usage.ofValue? (fun u => u.start.OnClock ∧ u.stop.OnClock) ∧
    ReadsBack Count.toValue Count.ofValue? (fun _ => True) ∧
    ReadsBack Mode.toValue Mode.ofValue? (fun _ => True) ∧
    (∀ m : StreamMessage, m.isKnown = true →
      ∃ v, m.toValue? = some v ∧ decode StreamMessage.ofValue? v.render = some m) ∧
    (∀ text m, decode StreamMessage.ofValue? text = some m → m.isKnown = true) ∧
    ∀ event data, (StreamMessage.ofEvent event data).event = event ∧
      ((StreamMessage.ofEvent event data).toValue?.isSome = true ↔
        event ∈ StreamMessage.knownEvents) ∧
      ∀ v, (StreamMessage.ofEvent event data).toValue? = some v →
        decode StreamMessage.ofValue? v.render = some (.ofEvent event data) := by
  have hmessage : ∀ m : StreamMessage, m.isKnown = true →
      ∃ v, m.toValue? = some v ∧ decode StreamMessage.ofValue? v.render = some m := by
    intro m hm
    refine ⟨_, toValue?_of_known hm, ?_⟩
    rw [decode_render, ofValue?_message hm]
    intro e he
    simp only [List.mem_cons, List.not_mem_nil, or_false] at he
    rcases he with rfl | rfl <;> exact fits_text _ _
  refine ⟨Instant.read?_render_iff,
    readsBack (fits_context 125) (fun _ => ofValue?_context) (fun _ _ => onClock_of_context),
    readsBack (fits_variant 125) (fun v _ => ofValue?_variant v) (fun _ _ _ => trivial),
    readsBack (fits_registration 125) (fun _ => ofValue?_registration)
      (fun _ _ => onClock_of_registration),
    readsBack (fits_metrics 122) (fun _ h => ofValue?_metrics h.1 h.2)
      (fun _ _ => onClock_of_metrics),
    readsBack (fits_usage 123) (fun _ h => ofValue?_usage h.1 h.2) (fun _ _ => onClock_of_usage),
    readsBack (fits_count 125) (fun c _ => ofValue?_count c) (fun _ _ _ => trivial),
    readsBack (fun m => fits_text _ m.name) (fun m _ => ofValue?_mode m) (fun _ _ _ => trivial),
    hmessage, ?_, ?_⟩
  · intro text m h
    obtain ⟨v, _, hv⟩ := Option.bind_eq_some_iff.mp h
    exact isKnown_of_value hv
  · intro event data
    have hknown := StreamMessage.isKnown_ofEvent event data
    refine ⟨StreamMessage.event_ofEvent event data, ?_, ?_⟩
    · rw [← hknown, StreamMessage.toValue?]
      split <;> simp_all
    · intro v hv
      have hm : (StreamMessage.ofEvent event data).isKnown = true := by
        by_contra hunknown
        rw [StreamMessage.toValue?, if_neg hunknown] at hv
        cases hv
      obtain ⟨w, hw, hread⟩ := hmessage _ hm
      cases hv.symm.trans hw
      exact hread

/-- A visitor in the leap second at the end of 2016. -/
def lateVisitor : Context :=
  { Context.empty with
    userId := some "u\n1"
    currentTime := some ⟨1483228799, 1500000000⟩
    properties := .ofList [("tenant", "acme"), ("plan", "")] }

theorem a_late_visitor_is_read_back :
    (∀ i ∈ lateVisitor.currentTime, i.OnClock) ∧
    lateVisitor.toValue.render = "\x7b\"userId\":\"u\\n1\",\"sessionId\":null," ++
      "\"remoteAddress\":null,\"environment\":null,\"appName\":null," ++
      "\"currentTime\":\"2016-12-31T23:59:60.500Z\"," ++
      "\"properties\":\x7b\"tenant\":\"acme\",\"plan\":\"\"\x7d\x7d" ∧
    decode Context.ofValue? lateVisitor.toValue.render = some lateVisitor ∧
    (StreamMessage.fetchMode "polling").isKnown = true ∧
    ∃ v, (StreamMessage.fetchMode "polling").toValue? = some v ∧
      decode StreamMessage.ofValue? v.render = some (.fetchMode "polling") := by
  have htime : ∀ i ∈ lateVisitor.currentTime, i.OnClock := by decide +kernel
  obtain ⟨_, hcontext, _, _, _, _, _, _, hmessage, _⟩ := wire_values_are_read_back
  exact ⟨htime, by decide +kernel, hcontext.back lateVisitor htime, rfl, hmessage _ rfl⟩

/-- A visitor in a leap second that does not end a minute. -/
def strayVisitor : Context :=
  { Context.empty with currentTime := some ⟨1483228740, 1500000000⟩ }

/-- Such a visitor is written like one of the second after, and read back as that one. -/
theorem a_stray_visitor_is_read_back_as_a_later_one :
    let later : Context := { Context.empty with currentTime := some ⟨1483228741, 500000000⟩ }
    (∀ i ∈ strayVisitor.currentTime, i.inRange = true ∧ i.nano < 2000000000) ∧
      strayVisitor ≠ later ∧
      decode Context.ofValue? strayVisitor.toValue.render = some later := by
  intro later
  have hsame : Instant.render ⟨1483228740, 1500000000⟩ = Instant.render ⟨1483228741, 500000000⟩ :=
    Instant.render_stray (by decide) (by decide) (by decide)
  have htext : strayVisitor.toValue = later.toValue := by
    simp [Context.toValue, nullOr, Instant.toValue, strayVisitor, later, hsame]
  have htime : ∀ i ∈ later.currentTime, i.OnClock := by decide +kernel
  refine ⟨by decide +kernel, by decide, ?_⟩
  rw [htext, decode_render (fits_context 125 later), ofValue?_context htime]

end ToggleSync
