-- The law of the usage counts: whatever is asked of an engine, each answer about a toggle that it
-- knows is counted once, in one of the counts that it hands out or in the one that it still keeps.
import Mathlib.Algebra.Ring.Nat
import Mathlib.Data.List.DropRight
import ToggleSync.Proofs.SyncLog

namespace ToggleSync

/-! ## Reading counts -/

theorem Table.get?_of_isEmpty {α : Type} {t : Table α} (h : t.isEmpty = true) (key : String) :
    t.get? key = none := by
  have hnone : t.entries = [] := List.isEmpty_iff.mp h
  rw [get?, hnone]
  rfl

theorem Table.isEmpty_put {α : Type} (t : Table α) (key : String) (a : α) :
    (t.put key a).isEmpty = false := by
  unfold isEmpty put putEntry
  cases t.entries with
  | nil => rfl
  | cons e es =>
    by_cases h : e.1 = key
    · simp [h]
    · simp [h]

theorem Table.getD_update {α : Type} (t : Table α) (key : String) (default : α) (f : α → α)
    (k : String) :
    ((t.update key default f).get? k).getD default =
      if key = k then f ((t.get? k).getD default) else (t.get? k).getD default := by
  rw [update, get?_put]
  by_cases h : key = k
  · subst h
    simp
  · rw [if_neg (Ne.symm h), if_neg h]

namespace Count

def outcomes (c : Count) (enabled : Bool) : UInt64 := if enabled then c.yes else c.no

def given (c : Count) (variant : String) : UInt64 := (c.variants.get? variant).getD 0

theorem outcomes_addOutcome (c : Count) (b enabled : Bool) :
    (c.addOutcome b).outcomes enabled =
      if b = enabled then c.outcomes enabled + 1 else c.outcomes enabled := by
  cases b <;> cases enabled <;> rfl

theorem outcomes_addVariant (c : Count) (v : String) (enabled : Bool) :
    (c.addVariant v).outcomes enabled = c.outcomes enabled := rfl

theorem given_addOutcome (c : Count) (b : Bool) (v : String) :
    (c.addOutcome b).given v = c.given v := by
  cases b <;> rfl

theorem given_addVariant (c : Count) (v variant : String) :
    (c.addVariant v).given variant =
      if v = variant then c.given variant + 1 else c.given variant :=
  c.variants.getD_update v 0 (· + 1) variant

end Count

namespace Usage

/-- What was counted for a toggle. -/
def count (u : Usage) (toggle : String) : Count := (u.toggles.get? toggle).getD .zero

theorem count_addOutcome (u : Usage) (name : String) (enabled : Bool) (toggle : String) :
    (u.addOutcome name enabled).count toggle =
      if name = toggle then (u.count toggle).addOutcome enabled else u.count toggle :=
  u.toggles.getD_update name .zero (·.addOutcome enabled) toggle

theorem count_addVariant (u : Usage) (name variant toggle : String) :
    (u.addVariant name variant).count toggle =
      if name = toggle then (u.count toggle).addVariant variant else u.count toggle :=
  u.toggles.getD_update name .zero (·.addVariant variant) toggle

theorem count_of_isEmpty {u : Usage} (h : u.isEmpty = true) (toggle : String) :
    u.count toggle = .zero := by
  rw [count, Table.get?_of_isEmpty h]
  rfl

theorem isEmpty_addOutcome (u : Usage) (name : String) (enabled : Bool) :
    (u.addOutcome name enabled).isEmpty = false := u.toggles.isEmpty_put name _

theorem isEmpty_addVariant (u : Usage) (name variant : String) :
    (u.addVariant name variant).isEmpty = false := u.toggles.isEmpty_put name _

/-- How often a toggle was on, or off. -/
def outcomes (u : Usage) (toggle : String) (enabled : Bool) : Nat :=
  ((u.count toggle).outcomes enabled).toNat

/-- How often a variant of a toggle was given. -/
def given (u : Usage) (toggle variant : String) : Nat := ((u.count toggle).given variant).toNat

end Usage

/-- A number goes on by one as long as it can be written down. -/
theorem toNat_add_one {n : UInt64} (h : n.toNat + 1 < UInt64.size) :
    (n + 1).toNat = n.toNat + 1 := by
  rw [UInt64.toNat_add]
  exact Nat.mod_eq_of_lt h

namespace Usage

variable {u : Usage} {name toggle : String}

theorem outcomes_addOutcome {b enabled : Bool}
    (h : u.outcomes toggle enabled + (name == toggle && b == enabled).toNat < UInt64.size) :
    (u.addOutcome name b).outcomes toggle enabled =
      u.outcomes toggle enabled + (name == toggle && b == enabled).toNat := by
  unfold outcomes at h ⊢
  rw [count_addOutcome]
  by_cases hn : name = toggle
  · rw [if_pos hn, Count.outcomes_addOutcome]
    by_cases hb : b = enabled
    · simp only [hn, hb, beq_self_eq_true, Bool.and_self, Bool.toNat_true] at h ⊢
      rw [if_pos trivial, toNat_add_one h]
    · simp [hb]
  · simp [hn]

theorem outcomes_addVariant (u : Usage) (name variant toggle : String) (enabled : Bool) :
    (u.addVariant name variant).outcomes toggle enabled = u.outcomes toggle enabled := by
  unfold outcomes
  rw [count_addVariant]
  split <;> rfl

theorem given_addOutcome (u : Usage) (name : String) (b : Bool) (toggle variant : String) :
    (u.addOutcome name b).given toggle variant = u.given toggle variant := by
  unfold given
  rw [count_addOutcome]
  split
  · rw [Count.given_addOutcome]
  · rfl

theorem given_addVariant {v variant : String}
    (h : u.given toggle variant + (name == toggle && v == variant).toNat < UInt64.size) :
    (u.addVariant name v).given toggle variant =
      u.given toggle variant + (name == toggle && v == variant).toNat := by
  unfold given at h ⊢
  rw [count_addVariant]
  by_cases hn : name = toggle
  · rw [if_pos hn, Count.given_addVariant]
    by_cases hv : v = variant
    · simp only [hn, hv, beq_self_eq_true, Bool.and_self, Bool.toNat_true] at h ⊢
      rw [if_pos trivial, toNat_add_one h]
    · simp [hv]
  · simp [hn]

end Usage

/-! ## Calls -/

/-- What is asked of an engine. -/
inductive Call
  | takeState (text : String)
  | isEnabled (name : String)
  | variant (name : String) (c : Context) (spare : String)
  | impressionData (name : String)
  | known
  | takeUsage (now : Instant)

namespace Call

/-- The toggle that is evaluated for a call. -/
def toggle? : Call → Option String
  | isEnabled name => some name
  | variant name _ _ => some name
  | _ => none

def drains : Call → Bool
  | takeUsage _ => true
  | _ => false

end Call

namespace Engine

/-- The engine after a call. A state that cannot be read leaves it as it was. -/
def after (e : Engine) : Call → Engine
  | .takeState text =>
    match e.takeState text with
    | .ok e' => e'
    | .error _ => e
  | .isEnabled name => (e.isEnabled name).2
  | .variant name c spare => (e.variant name c spare).2
  | .impressionData _ => e
  | .known => e
  | .takeUsage now => (e.takeUsage now).2

/-- The count that a call hands out. -/
def drained (e : Engine) : Call → Option Usage
  | .takeUsage now => (e.takeUsage now).1
  | _ => none

def afterAll (e : Engine) (calls : List Call) : Engine := calls.foldl after e

/-- The counts that are handed out by calls, in their order. -/
def drainedAll : Engine → List Call → List Usage
  | _, [] => []
  | e, c :: calls => (e.drained c).toList ++ drainedAll (e.after c) calls

/-- A call, and the engine that it is made on. -/
structure Turn where
  engine : Engine
  call : Call

def turns : Engine → List Call → List Turn
  | _, [] => []
  | e, c :: calls => ⟨e, c⟩ :: turns (e.after c) calls

namespace Turn

/-- The toggle that is evaluated, if the engine knows it. -/
def toggle? (t : Turn) : Option Toggle := t.call.toggle?.bind t.engine.snapshot.get?

/-- Whether the toggle of the name is evaluated while it is known, and on (or off). -/
def finds (t : Turn) (name : String) (enabled : Bool) : Bool :=
  t.call.toggle? == some name && t.toggle?.map (·.enabled) == some enabled

/-- Whether a question for a variant of the toggle is answered by the one of the name. -/
def gives (t : Turn) (name variant : String) : Bool :=
  match t.call with
  | .variant n c spare =>
    n == name && (t.engine.variant n c spare).1.map (·.name) == some variant
  | _ => false

end Turn

theorem turns_snoc (e : Engine) (calls : List Call) (c : Call) :
    e.turns (calls ++ [c]) = e.turns calls ++ [⟨e.afterAll calls, c⟩] := by
  induction calls generalizing e with
  | nil => rfl
  | cons d calls ih =>
    rw [List.cons_append, turns, ih]
    rfl

theorem afterAll_snoc (e : Engine) (calls : List Call) (c : Call) :
    e.afterAll (calls ++ [c]) = (e.afterAll calls).after c := by
  rw [afterAll, List.foldl_append]
  rfl

/-! ## What one call does to the counts -/

theorem usage_takeState (e : Engine) (text : String) :
    (e.after (.takeState text)).usage = e.usage := by
  simp only [after, takeState]
  cases Update.read text <;> rfl

/-- A question for a toggle that is not known leaves the engine as it was. -/
theorem after_of_unknown {e : Engine} {c : Call} {name : String} (hc : c.toggle? = some name)
    (h : e.snapshot.get? name = none) : e.after c = e := by
  cases c with
  | isEnabled n =>
    cases hc
    simp only [after, isEnabled, h]
  | variant n context spare =>
    cases hc
    simp only [after, variant, h]
  | takeState text => cases hc
  | impressionData n => cases hc
  | known => cases hc
  | takeUsage now => cases hc

theorem variant_of_known {e : Engine} {name : String} {t : Toggle}
    (h : e.snapshot.get? name = some t) (c : Context) (spare : String) :
    (e.variant name c spare).1 = some (t.variantFor c spare) := by
  simp only [variant, h]

/-- All that a call can do to what is counted: nothing, if no toggle that is known is evaluated and
nothing is handed out; count an outcome; count an outcome and the variant that is given; or hand
out what was counted, and begin anew. -/
theorem usage_cases (e : Engine) (c : Call) :
    (Turn.toggle? ⟨e, c⟩ = none ∧ c.drains = false ∧ (e.after c).usage = e.usage) ∨
    (∃ name t, c = .isEnabled name ∧ e.snapshot.get? name = some t ∧
      (e.after c).usage = e.usage.addOutcome name t.enabled) ∨
    (∃ name context spare t, c = .variant name context spare ∧ e.snapshot.get? name = some t ∧
      (e.after c).usage =
        (e.usage.addOutcome name t.enabled).addVariant name (t.variantFor context spare).name) ∨
    (∃ now, c = .takeUsage now ∧ (e.after c).usage = .new now) := by
  cases c with
  | takeState text => exact .inl ⟨rfl, rfl, usage_takeState e text⟩
  | impressionData name => exact .inl ⟨rfl, rfl, rfl⟩
  | known => exact .inl ⟨rfl, rfl, rfl⟩
  | isEnabled name =>
    cases h : e.snapshot.get? name with
    | none => exact .inl ⟨h, rfl, by rw [after_of_unknown rfl h]⟩
    | some t => exact .inr (.inl ⟨name, t, rfl, h, by simp only [after, isEnabled, h]⟩)
  | variant name context spare =>
    cases h : e.snapshot.get? name with
    | none => exact .inl ⟨h, rfl, by rw [after_of_unknown rfl h]⟩
    | some t =>
      exact .inr (.inr (.inl ⟨name, context, spare, t, rfl, h, by simp only [after, variant, h]⟩))
  | takeUsage now =>
    refine .inr (.inr (.inr ⟨now, rfl, ?_⟩))
    simp only [after, takeUsage]
    split <;> rfl

theorem drained_of_not_drains {c : Call} (h : c.drains = false) (e : Engine) :
    e.drained c = none := by
  cases c with
  | takeUsage now => cases h
  | _ => rfl

/-- Nothing is handed out if nothing was counted. -/
theorem drained_takeUsage (e : Engine) (now : Instant) :
    e.drained (.takeUsage now) =
      if e.usage.isEmpty then none else some { e.usage with stop := now } := by
  simp only [drained, takeUsage]
  split <;> rfl

end Engine

/-! ## Tallies -/

/-- A number of the count of a toggle, and the turns that are to add to it. As long as it can be
written down it goes on by one with each of these, and with no other call. -/
structure Tally where
  toggle : String
  read : Count → Nat
  hits : Engine.Turn → Bool
  zero : read .zero = 0
  asks : ∀ t, hits t = true → t.toggle?.isSome = true
  isEnabled : ∀ (e : Engine) name t, e.snapshot.get? name = some t →
    read (e.usage.count toggle) + (hits ⟨e, .isEnabled name⟩).toNat < UInt64.size →
    read ((e.usage.addOutcome name t.enabled).count toggle) =
      read (e.usage.count toggle) + (hits ⟨e, .isEnabled name⟩).toNat
  variant : ∀ (e : Engine) name c spare t, e.snapshot.get? name = some t →
    read (e.usage.count toggle) + (hits ⟨e, .variant name c spare⟩).toNat < UInt64.size →
    read (((e.usage.addOutcome name t.enabled).addVariant name
        (t.variantFor c spare).name).count toggle) =
      read (e.usage.count toggle) + (hits ⟨e, .variant name c spare⟩).toNat

namespace Tally

def of (y : Tally) (u : Usage) : Nat := y.read (u.count y.toggle)

theorem not_hits {y : Tally} {t : Engine.Turn} (h : t.toggle? = none) : y.hits t = false := by
  by_contra hhit
  have hasks := y.asks t (Bool.not_eq_false _ ▸ hhit)
  rw [h] at hasks
  cases hasks

/-- What is handed out in a turn and what is kept after it are what was kept before it, and one
more if the turn hits. -/
theorem turn (y : Tally) (e : Engine) (c : Call)
    (h : y.of e.usage + (y.hits ⟨e, c⟩).toNat < UInt64.size) :
    ((e.drained c).toList.map y.of).sum + y.of (e.after c).usage =
      y.of e.usage + (y.hits ⟨e, c⟩).toNat := by
  obtain ⟨hnone, hdrains, hu⟩ | ⟨name, t, rfl, hknown, hu⟩ |
    ⟨name, context, spare, t, rfl, hknown, hu⟩ | ⟨now, rfl, hu⟩ := e.usage_cases c
  · rw [hu, Engine.drained_of_not_drains hdrains, y.not_hits hnone]
    simp
  · rw [hu, Engine.drained_of_not_drains rfl]
    simpa [of] using y.isEnabled e name t hknown h
  · rw [hu, Engine.drained_of_not_drains rfl]
    simpa [of] using y.variant e name context spare t hknown h
  · rw [hu, y.not_hits rfl, Engine.drained_takeUsage]
    have hnew : y.of (.new now) = 0 := y.zero
    cases hempty : e.usage.isEmpty with
    | true =>
      have hkept : y.of e.usage = 0 := by rw [of, Usage.count_of_isEmpty hempty, y.zero]
      simp [hnew, hkept]
    | false =>
      have hstop : y.of { e.usage with stop := now } = y.of e.usage := rfl
      simp [hnew, hstop]

/-- No hit is lost, and none is counted twice, however often counts are handed out in between. -/
theorem run (y : Tally) (e : Engine) (calls : List Call)
    (h : y.of e.usage + calls.countP (·.toggle?.isSome) < UInt64.size) :
    ((e.drainedAll calls).map y.of).sum + y.of (e.afterAll calls).usage =
      y.of e.usage + (e.turns calls).countP y.hits := by
  induction calls generalizing e with
  | nil => simp [Engine.drainedAll, Engine.afterAll, Engine.turns]
  | cons c calls ih =>
    have hhit : (y.hits ⟨e, c⟩).toNat ≤ if c.toggle?.isSome then 1 else 0 := by
      cases hhits : y.hits ⟨e, c⟩ with
      | false => exact Nat.zero_le _
      | true =>
        have hasks := y.asks ⟨e, c⟩ hhits
        have hsome : c.toggle?.isSome = true := by
          cases hname : c.toggle? with
          | some name => rfl
          | none =>
            rw [Engine.Turn.toggle?, hname] at hasks
            cases hasks
        rw [hsome]
        exact Nat.le_refl 1
    rw [List.countP_cons] at h
    have hturn := y.turn e c (by omega)
    have hrest := ih (e.after c) (by omega)
    have hcount : (e.turns (c :: calls)).countP y.hits =
        (y.hits ⟨e, c⟩).toNat + ((e.after c).turns calls).countP y.hits := by
      rw [Engine.turns, List.countP_cons, Nat.add_comm]
      cases y.hits ⟨e, c⟩ <;> rfl
    have hafter : e.afterAll (c :: calls) = (e.after c).afterAll calls := rfl
    rw [Engine.drainedAll, List.map_append, List.sum_append, hcount, hafter]
    omega

theorem run_new (y : Tally) (start : Instant) {calls : List Call}
    (h : calls.countP (·.toggle?.isSome) < UInt64.size) :
    (((Engine.new start).drainedAll calls ++ [((Engine.new start).afterAll calls).usage]).map
      y.of).sum = ((Engine.new start).turns calls).countP y.hits := by
  have hzero : y.of (Engine.new start).usage = 0 := y.zero
  have hrun := y.run (Engine.new start) calls (by rwa [hzero, Nat.zero_add])
  rw [List.map_append, List.sum_append, List.map_singleton, List.sum_singleton, hrun, hzero,
    Nat.zero_add]

/-- The evaluations of a toggle while it is known, and on (or off). -/
def outcomes (name : String) (enabled : Bool) : Tally where
  toggle := name
  read c := (c.outcomes enabled).toNat
  hits t := t.finds name enabled
  zero := by cases enabled <;> rfl
  asks t h := by
    simp only [Engine.Turn.finds, Bool.and_eq_true, beq_iff_eq] at h
    obtain ⟨_, ht, _⟩ := Option.map_eq_some_iff.mp h.2
    rw [ht]
    rfl
  isEnabled e n t hknown h := by
    have hfinds : Engine.Turn.finds ⟨e, .isEnabled n⟩ name enabled =
        (n == name && t.enabled == enabled) := by
      simp [Engine.Turn.finds, Engine.Turn.toggle?, Call.toggle?, hknown]
    rw [hfinds] at h ⊢
    exact Usage.outcomes_addOutcome h
  variant e n c spare t hknown h := by
    have hfinds : Engine.Turn.finds ⟨e, .variant n c spare⟩ name enabled =
        (n == name && t.enabled == enabled) := by
      simp [Engine.Turn.finds, Engine.Turn.toggle?, Call.toggle?, hknown]
    rw [hfinds] at h ⊢
    exact (Usage.outcomes_addVariant _ _ _ _ _).trans (Usage.outcomes_addOutcome h)

/-- The questions for a variant that are answered by the one of the name. -/
def given (name variant : String) : Tally where
  toggle := name
  read c := (c.given variant).toNat
  hits t := t.gives name variant
  zero := rfl
  asks t h := by
    obtain ⟨e, c⟩ := t
    cases c with
    | variant n context spare =>
      simp only [Engine.Turn.gives, Bool.and_eq_true, beq_iff_eq] at h
      cases hknown : e.snapshot.get? n with
      | none => simp [Engine.variant, hknown] at h
      | some t => exact Option.isSome_of_eq_some hknown
    | _ => cases h
  isEnabled e n t hknown h := Usage.given_addOutcome _ _ _ _ _
  variant e n c spare t hknown h := by
    have hgives : Engine.Turn.gives ⟨e, .variant n c spare⟩ name variant =
        (n == name && (t.variantFor c spare).name == variant) := by
      simp [Engine.Turn.gives, Engine.variant_of_known hknown]
    rw [hgives] at h ⊢
    have houtcome := e.usage.given_addOutcome n t.enabled name variant
    exact (Usage.given_addVariant (houtcome ▸ h)).trans (congrArg (· + _) houtcome)

end Tally

/-! ## Nothing to hand out -/

namespace Engine

theorem usage_new_isEmpty (start : Instant) : (Usage.new start).isEmpty = true := rfl

/-- What is kept is empty exactly if no toggle that is known was evaluated since something was last
asked to be handed out, or since the engine was new. -/
theorem usage_isEmpty_iff (start : Instant) (calls : List Call) :
    ((new start).afterAll calls).usage.isEmpty = true ↔
      ∀ t ∈ ((new start).turns calls).rtakeWhile (fun t => !t.call.drains), t.toggle? = none := by
  induction calls using List.reverseRecOn with
  | nil =>
    refine iff_of_true rfl fun t ht => ?_
    cases ht
  | append_singleton calls c ih =>
    rw [turns_snoc, afterAll_snoc]
    obtain ⟨hnone, hdrains, hu⟩ | ⟨name, t, rfl, hknown, hu⟩ |
      ⟨name, context, spare, t, rfl, hknown, hu⟩ | ⟨now, rfl, hu⟩ :=
      ((new start).afterAll calls).usage_cases c
    · rw [hu, ih, List.rtakeWhile_concat_pos _ _ _ (by simp [hdrains])]
      simp [hnone, or_imp, forall_and]
    · rw [hu, Usage.isEmpty_addOutcome, List.rtakeWhile_concat_pos _ _ _ rfl]
      simp only [Bool.false_eq_true, false_iff, not_forall]
      refine ⟨_, List.mem_append_right _ (List.mem_singleton_self _), ?_⟩
      simp [Turn.toggle?, Call.toggle?, hknown]
    · rw [hu, Usage.isEmpty_addVariant, List.rtakeWhile_concat_pos _ _ _ rfl]
      simp only [Bool.false_eq_true, false_iff, not_forall]
      refine ⟨_, List.mem_append_right _ (List.mem_singleton_self _), ?_⟩
      simp [Turn.toggle?, Call.toggle?, hknown]
    · rw [hu, List.rtakeWhile_concat_neg _ _ _ (by simp [Call.drains])]
      simp [usage_new_isEmpty]

theorem takeUsage_eq_none_iff (e : Engine) (now : Instant) :
    (e.takeUsage now).1 = none ↔ e.usage.isEmpty = true := by
  unfold takeUsage
  cases e.usage.isEmpty <;> simp

end Engine

/-! ## Reports -/

/-- The counts that were reported, and by whom. -/
def View.reports : View Metrics where
  see
    | .reported m => some m
    | _ => none
  skips_write _ _ := rfl
  skips_error _ _ := rfl
  skips_announced := rfl
  skips_ready := rfl

namespace Sync

/-- A call at a tick. Counts are handed out to the report that is due, at the time of the
calendar. -/
def serve (i : Identity) (s : Sync) (x : Nat × Call) : Sync :=
  match x.2 with
  | .takeUsage now => (behaviour.begin x.1 { s with calendar := now } (.report i)).1
  | call => { s with engine := s.engine.after call }

theorem serve_takeUsage (i : Identity) (s : Sync) (tick : Nat) (now : Instant) :
    s.serve i (tick, .takeUsage now) = { s with calendar := now }.report tick i := rfl

/-- A report hands over what is handed out to it, once. -/
theorem serve_spec (i : Identity) (s : Sync) (x : Nat × Call) :
    (s.serve i x).engine = s.engine.after x.2 ∧
      (s.serve i x).seen .reports = s.seen .reports ++
        (s.engine.drained x.2).toList.map
          (⟨i.appName, i.instanceId, i.connectionId, ·⟩) := by
  obtain ⟨tick, c⟩ := x
  cases c with
  | takeUsage now =>
    rw [serve_takeUsage, report]
    simp only [Engine.drained, Engine.after]
    cases (s.engine.takeUsage now).1 with
    | none => exact ⟨rfl, (List.append_nil _).symm⟩
    | some bucket =>
      refine ⟨rfl, ?_⟩
      rw [seen_note]
      rfl
  | _ => exact ⟨rfl, (List.append_nil _).symm⟩

theorem serveAll_spec (i : Identity) (s : Sync) (xs : List (Nat × Call)) :
    (xs.foldl (serve i) s).engine = s.engine.afterAll (xs.map (·.2)) ∧
      (xs.foldl (serve i) s).seen .reports = s.seen .reports ++
        (s.engine.drainedAll (xs.map (·.2))).map
          (⟨i.appName, i.instanceId, i.connectionId, ·⟩) := by
  induction xs generalizing s with
  | nil => exact ⟨rfl, (List.append_nil _).symm⟩
  | cons x xs ih =>
    obtain ⟨hengine, hreports⟩ := s.serve_spec i x
    obtain ⟨hengines, hrest⟩ := ih (s.serve i x)
    rw [hengine] at hengines hrest
    refine ⟨hengines, ?_⟩
    rw [List.foldl_cons, hrest, hreports, List.append_assoc, List.map_cons, Engine.drainedAll,
      List.map_append]

end Sync

/-! ## The law -/

namespace Engine

/-- Whatever is asked of a new engine, in whatever order, and fewer times than a count can go on.
For each toggle, what was handed out and what is still kept add up to the evaluations of the toggle
while it was known and on, and to those while it was known and off. For each variant they add up to
the questions that were answered by that variant. A question for a toggle that is not known counts
nowhere and changes nothing. Nothing is handed out exactly if no toggle that is known was evaluated
since the last time. And where counts are handed out to the reports of a client, each is reported
once, in its order, and nothing else is. -/
theorem every_evaluation_is_counted_once (start : Instant) (calls : List Call)
    (h : calls.countP (·.toggle?.isSome) < UInt64.size) :
    (∀ name enabled,
      (((new start).drainedAll calls ++ [((new start).afterAll calls).usage]).map
        (·.outcomes name enabled)).sum =
      ((new start).turns calls).countP (·.finds name enabled)) ∧
    (∀ name variant,
      (((new start).drainedAll calls ++ [((new start).afterAll calls).usage]).map
        (·.given name variant)).sum =
      ((new start).turns calls).countP (·.gives name variant)) ∧
    (∀ t : Turn, t.call.toggle?.isSome = true → t.toggle? = none →
      t.engine.after t.call = t.engine) ∧
    (∀ now, (((new start).afterAll calls).takeUsage now).1 = none ↔
      ∀ t ∈ ((new start).turns calls).rtakeWhile (fun t => !t.call.drains), t.toggle? = none) ∧
    (∀ (i : Identity) (s : Sync) (xs : List (Nat × Call)), s.engine = new start →
      xs.map (·.2) = calls →
      (xs.foldl (Sync.serve i) s).engine = (new start).afterAll calls ∧
        (xs.foldl (Sync.serve i) s).seen .reports = s.seen .reports ++
          ((new start).drainedAll calls).map
            (⟨i.appName, i.instanceId, i.connectionId, ·⟩)) := by
  refine ⟨?_, ?_, ?_, ?_, ?_⟩
  · intro name enabled
    exact (Tally.outcomes name enabled).run_new start h
  · intro name variant
    exact (Tally.given name variant).run_new start h
  · intro t hasks hunknown
    obtain ⟨name, hname⟩ := Option.isSome_iff_exists.mp hasks
    rw [Turn.toggle?, hname] at hunknown
    exact after_of_unknown hname hunknown
  · intro now
    rw [takeUsage_eq_none_iff, usage_isEmpty_iff]
  · rintro i s xs hs rfl
    rw [← hs]
    exact s.serveAll_spec i xs

/-! ## A toggle that comes and goes -/

def saleState (enabled : Bool) : String :=
  (Collection.ofList [⟨"sale", enabled, none, none, false, []⟩]).render

/-- A toggle is asked for before it is known, while it is on, after a report while it is off, and
after it has gone. -/
def shopDay : List Call :=
  [.isEnabled "sale", .takeState (saleState true), .isEnabled "sale", .variant "sale" .empty "",
    .takeUsage .epoch, .takeState (saleState false), .variant "sale" .empty "",
    .takeState "no state", .impressionData "sale", .known, .takeState (Collection.ofList []).render,
    .isEnabled "sale"]

theorem a_toggle_is_counted_while_it_is_known :
    shopDay.countP (·.toggle?.isSome) < UInt64.size ∧
      (((new .epoch).drainedAll shopDay ++ [((new .epoch).afterAll shopDay).usage]).map
        (·.outcomes "sale" true)).sum = 2 ∧
      (((new .epoch).drainedAll shopDay ++ [((new .epoch).afterAll shopDay).usage]).map
        (·.outcomes "sale" false)).sum = 1 ∧
      (((new .epoch).drainedAll shopDay ++ [((new .epoch).afterAll shopDay).usage]).map
        (·.given "sale" "disabled")).sum = 2 := by
  have hfew : shopDay.countP (·.toggle?.isSome) < UInt64.size := by decide
  have hlaw := every_evaluation_is_counted_once .epoch shopDay hfew
  refine ⟨hfew, ?_⟩
  rw [hlaw.1, hlaw.1, hlaw.2.1]
  decide +kernel

end Engine

end ToggleSync
