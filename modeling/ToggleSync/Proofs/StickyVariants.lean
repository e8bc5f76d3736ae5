-- The law of sticky variants. An engine holds what its updates made of its toggles; questions and
-- hand-outs of counts change nothing there. So which variant somebody gets is decided by the first
-- toggle of the name, by its setting and its variants alone, and by the stickiness value.
import ToggleSync.Proofs.BucketShares
import ToggleSync.Proofs.LastChange
import ToggleSync.Proofs.StateText
import ToggleSync.Proofs.UsageCounts

namespace ToggleSync

/-! ## What an engine holds -/

/-- The update that a call brings. A state that cannot be read brings none. -/
def Call.update? : Call → Option Update
  | .takeState text => (Update.read text).toOption
  | _ => none

theorem Call.update?_render (u : Update) : (Call.takeState u.render).update? = some u := by
  rw [update?, read_render]
  rfl

/-- The updates that calls bring, in their order. -/
def updatesOf (calls : List Call) : List Update := calls.filterMap Call.update?

theorem updatesOf_cons (c : Call) (calls : List Call) :
    updatesOf (c :: calls) = c.update?.toList ++ updatesOf calls := by
  rw [updatesOf, List.filterMap_cons]
  cases c.update? <;> rfl

theorem updatesOf_render (u : Update) (calls : List Call) :
    updatesOf (.takeState u.render :: calls) = u :: updatesOf calls := by
  rw [updatesOf_cons, Call.update?_render]
  rfl

/-- A collection after updates, one by one. -/
def Collection.afterUpdates (c : Collection) (updates : List Update) : Collection :=
  updates.foldl Update.applyTo c

theorem Collection.afterUpdates_append (c : Collection) (updates later : List Update) :
    c.afterUpdates (updates ++ later) = (c.afterUpdates updates).afterUpdates later :=
  List.foldl_append

namespace Engine

theorem snapshot_after (e : Engine) (c : Call) :
    (e.after c).snapshot = e.snapshot.afterUpdates c.update?.toList := by
  cases c with
  | takeState text =>
    simp only [after, takeState, Call.update?]
    cases Update.read text <;> rfl
  | isEnabled name =>
    simp only [after, isEnabled]
    cases e.snapshot.get? name <;> rfl
  | variant name c spare =>
    simp only [after, variant]
    cases e.snapshot.get? name <;> rfl
  | takeUsage now =>
    simp only [after, takeUsage]
    split <;> rfl
  | impressionData name => rfl
  | known => rfl

/-- Only updates count for what an engine holds after calls. -/
theorem snapshot_afterAll (e : Engine) (calls : List Call) :
    (e.afterAll calls).snapshot = e.snapshot.afterUpdates (updatesOf calls) := by
  induction calls generalizing e with
  | nil => rfl
  | cons c calls ih =>
    calc (e.afterAll (c :: calls)).snapshot
      _ = ((e.after c).afterAll calls).snapshot := rfl
      _ = (e.snapshot.afterUpdates c.update?.toList).afterUpdates (updatesOf calls) := by
        rw [ih, snapshot_after]
      _ = e.snapshot.afterUpdates (updatesOf (c :: calls)) := by
        rw [updatesOf_cons, Collection.afterUpdates_append]

end Engine

/-! ## Updates that leave a name alone -/

/-- Whether an update is a delta of which no change concerns the name. -/
def Update.spares (name : String) : Update → Bool
  | .delta changes => !touches changes name
  | .full _ => false

theorem get?_of_spares {u : Update} {name : String} (h : u.spares name = true)
    (c : Collection) : (u.applyTo c).get? name = c.get? name := by
  cases u with
  | full collection => cases h
  | delta changes =>
    have huntouched : touches changes name = false := by simpa [Update.spares] using h
    rw [get?_delta, lookupAfter_of_untouched huntouched]

theorem get?_afterUpdates {updates : List Update} {name : String}
    (h : ∀ u ∈ updates, u.spares name = true) (c : Collection) :
    (c.afterUpdates updates).get? name = c.get? name := by
  induction updates generalizing c with
  | nil => rfl
  | cons u us ih =>
    obtain ⟨hu, hus⟩ := List.forall_mem_cons.mp h
    exact (ih hus (u.applyTo c)).trans (get?_of_spares hu c)

/-! ## Stickiness values -/

/-- A stickiness that names no field, or is the default one. -/
def isUsual (stickiness : Option String) : Prop := stickiness = none ∨ stickiness = some "default"

/-- The value is that of the named field. Without one it is the user, and for want of a user the
session, and for want of both the address. -/
theorem Context.stickinessValue_eq_some_iff (c : Context) (stickiness : Option String)
    (key : String) :
    c.stickinessValue stickiness = some key ↔
      (∃ field, stickiness = some field ∧ field ≠ "default" ∧ c.field? field = some key) ∨
      (isUsual stickiness ∧
        (c.userId = some key ∨
          c.userId = none ∧ c.sessionId = some key ∨
          c.userId = none ∧ c.sessionId = none ∧ c.remoteAddress = some key)) := by
  have husual : stickinessValue.usual c = some key ↔
      c.userId = some key ∨
        c.userId = none ∧ c.sessionId = some key ∨
        c.userId = none ∧ c.sessionId = none ∧ c.remoteAddress = some key := by
    unfold stickinessValue.usual
    cases c.userId <;> cases c.sessionId <;> simp
  cases stickiness with
  | none => simp [stickinessValue, isUsual, husual]
  | some field =>
    by_cases hd : field = "default"
    · simp [stickinessValue, isUsual, husual, hd]
    · simp [stickinessValue, isUsual, hd]

/-! ## The law -/

namespace Toggle

/-- Of a toggle that is off, only that counts; else its variants. -/
theorem variantOfHash_congr {t t' : Toggle} (henabled : t.enabled = t'.enabled)
    (hvariants : t.variants = t'.variants) (hash : UInt32) :
    t.variantOfHash hash = t'.variantOfHash hash := by
  have htotal : t.totalWeight = t'.totalWeight := congrArg weightOf hvariants
  have hbucket : t.bucketOfHash hash = t'.bucketOfHash hash := by
    rw [bucketOfHash, bucketOfHash, bucketCount, bucketCount, htotal]
  unfold variantOfHash
  rw [henabled, hvariants, htotal, hbucket]

end Toggle

theorem Collection.name_of_get? {c : Collection} {name : String} {t : Toggle}
    (h : c.get? name = some t) : t.name = name := by
  simpa using List.find?_some h

/-- What an engine answers to somebody with a stickiness value is decided by that value, and by the
name, the setting and the variants of the toggle. -/
theorem Engine.variant_of_key {e : Engine} {name key : String} {t : Toggle} {c : Context}
    (ht : e.snapshot.get? name = some t) (hkey : c.stickinessValue t.stickiness = some key)
    (spare : String) :
    (e.variant name c spare).1 = some (t.variantOfHash (Toggle.hashOf name key)) := by
  rw [variant_of_known ht, t.variantFor_eq hkey, Collection.name_of_get? ht]

/-- Two engines, each after any calls, give one and the same variant to two contexts with the same
stickiness value for the toggle, if the first toggles of the name agree in their setting and their
variants; nothing else that they hold, that was asked before or that stands in the contexts makes
a difference, and neither do the spare keys. Updates that do not concern a toggle change nobody's
variant of it, with or without a stickiness value, whatever is asked between them. -/
theorem a_stickiness_value_keeps_its_variant (name : String) :
    (∀ (e e' : Engine) (calls calls' : List Call) (t t' : Toggle) (c c' : Context) (key : String),
      (e.afterAll calls).snapshot.get? name = some t →
      (e'.afterAll calls').snapshot.get? name = some t' →
      t.enabled = t'.enabled → t.variants = t'.variants →
      c.stickinessValue t.stickiness = some key → c'.stickinessValue t'.stickiness = some key →
      ∃ v, ∀ spare spare', ((e.afterAll calls).variant name c spare).1 = some v ∧
        ((e'.afterAll calls').variant name c' spare').1 = some v) ∧
    (∀ (c : Context) (stickiness : Option String) (key : String),
      c.stickinessValue stickiness = some key ↔
        (∃ field, stickiness = some field ∧ field ≠ "default" ∧ c.field? field = some key) ∨
        (isUsual stickiness ∧
          (c.userId = some key ∨
            c.userId = none ∧ c.sessionId = some key ∨
            c.userId = none ∧ c.sessionId = none ∧ c.remoteAddress = some key))) ∧
    (∀ (e : Engine) (later : List Call), (∀ u ∈ updatesOf later, u.spares name = true) →
      (e.afterAll later).snapshot.get? name = e.snapshot.get? name ∧
      ∀ c spare, ((e.afterAll later).variant name c spare).1 = (e.variant name c spare).1) := by
  refine ⟨?_, Context.stickinessValue_eq_some_iff, ?_⟩
  · intro e e' calls calls' t t' c c' key ht ht' henabled hvariants hkey hkey'
    refine ⟨t.variantOfHash (Toggle.hashOf name key), fun spare spare' => ⟨?_, ?_⟩⟩
    · exact Engine.variant_of_key ht hkey spare
    · rw [Engine.variant_of_key ht' hkey', Toggle.variantOfHash_congr henabled hvariants]
  · intro e later hspares
    have hsame : (e.afterAll later).snapshot.get? name = e.snapshot.get? name := by
      rw [Engine.snapshot_afterAll, get?_afterUpdates hspares]
    refine ⟨hsame, fun c spare => ?_⟩
    simp only [Engine.variant, hsame]
    cases e.snapshot.get? name <;> rfl

/-- One engine took a whole collection, and somebody asked. Another got the toggle by a delta, with
a text to describe it. Who is a user to the first and a session to the second sees the same variant,
also after the first heard of other toggles. -/
theorem a_user_and_a_session_get_one_banner :
    let whole : Update := .full (.ofList [.bare "alpha" true, .banner])
    let described : Toggle := { Toggle.banner with description := some "a banner" }
    let added : Update := .delta [.updated 1 described]
    let other : Update := .delta [.updated 2 (.bare "alpha" false), .removed 3 "beta" none]
    let user := Context.empty.setField "userId" "42"
    let session := (Context.empty.setField "sessionId" "42").setField "remoteAddress" "10.0.0.1"
    let new := Engine.new .epoch
    let calls : List Call := [.takeState whole.render, .variant "banner" user "7"]
    let calls' : List Call := [.takeState added.render, .takeUsage .epoch]
    let later : List Call := [.takeState other.render, .isEnabled "banner"]
    (new.afterAll calls).snapshot.get? "banner" = some .banner ∧
      (new.afterAll calls').snapshot.get? "banner" = some described ∧
      user.stickinessValue Toggle.banner.stickiness = some "42" ∧
      session.stickinessValue described.stickiness = some "42" ∧
      (∀ u ∈ updatesOf later, u.spares "banner" = true) ∧
      ∃ v, ((new.afterAll calls).variant "banner" user "").1 = some v ∧
        ((new.afterAll calls').variant "banner" session "").1 = some v ∧
        (((new.afterAll calls).afterAll later).variant "banner" user "").1 = some v := by
  intro whole described added other user session new calls calls' later
  obtain ⟨hsame, -, hspared⟩ := a_stickiness_value_keeps_its_variant "banner"
  have hcalls : updatesOf calls = [whole] := updatesOf_render _ _
  have hcalls' : updatesOf calls' = [added] := updatesOf_render _ _
  have hlater : updatesOf later = [other] := updatesOf_render _ _
  have ht : (new.afterAll calls).snapshot.get? "banner" = some .banner := by
    rw [Engine.snapshot_afterAll, hcalls]
    decide
  have ht' : (new.afterAll calls').snapshot.get? "banner" = some described := by
    rw [Engine.snapshot_afterAll, hcalls']
    decide
  have hkey : user.stickinessValue Toggle.banner.stickiness = some "42" := by decide
  have hkey' : session.stickinessValue described.stickiness = some "42" := by decide
  have hspares : ∀ u ∈ updatesOf later, u.spares "banner" = true := by
    rw [hlater]
    decide
  obtain ⟨v, hv⟩ := hsame _ _ _ _ _ _ user session "42" ht ht' rfl rfl hkey hkey'
  refine ⟨ht, ht', hkey, hkey', hspares, v, (hv "" "").1, (hv "" "").2, ?_⟩
  rw [(hspared _ later hspares).2]
  exact (hv "" "").1

end ToggleSync
