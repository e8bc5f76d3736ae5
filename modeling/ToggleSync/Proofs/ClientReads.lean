-- The law of questions: whatever an application asks a client, and whenever, the answers are those
-- of the toggles that the client holds then. A question changes nothing but the count of what was
-- asked and the impressions that were raised, one for each evaluation of a toggle that has them.
import ToggleSync.Proofs.ImpressionLog
import ToggleSync.Proofs.StickyVariants

namespace ToggleSync

/-! ## The first toggle of a name -/

namespace Collection

/-- Of the toggles of the name this one stands first. -/
def IsFirst (c : Collection) (name : String) (t : Toggle) : Prop :=
  ∃ before later, c.toggles = before ++ t :: later ∧ t.name = name ∧ ∀ u ∈ before, u.name ≠ name

def Lacks (c : Collection) (name : String) : Prop := ∀ t ∈ c.toggles, t.name ≠ name

theorem isFirst_iff (c : Collection) (name : String) (t : Toggle) :
    c.IsFirst name t ↔ c.get? name = some t := by
  unfold IsFirst get?
  rw [List.find?_eq_some_iff_append]
  simp only [beq_iff_eq, Bool.not_eq_true', beq_eq_false_iff_ne]
  grind

theorem lacks_iff (c : Collection) (name : String) : c.Lacks name ↔ c.get? name = none := by
  simp [Lacks, get?]

end Collection

theorem Toggle.featureEnabled_variantFor (t : Toggle) (c : Context) (spare : String) :
    (t.variantFor c spare).featureEnabled = t.enabled := by
  unfold variantFor
  split
  · rfl
  · rename_i h
    have henabled : t.enabled = true := by simp_all
    simp only
    split
    · exact henabled.symm
    · rfl

/-! ## Questions -/

namespace Client

def snapshot (c : Client) : Collection := c.sync.engine.snapshot

/-- What an application asks a client. -/
inductive Read
  | isEnabled (name : String) (context : Context) (default : Bool)
  | variant (name : String) (context : Context) (default : Variant) (spare : String)
  | all (context : Context)
  | known

def afterRead (c : Client) : Read → Client
  | .isEnabled name context default => (c.isEnabled name context default).1
  | .variant name context default spare => (c.variant name context default spare).1
  | .all context => (c.all context).1
  | .known => c

/-- One toggle that a question comes to, with the context as the application gave it. -/
inductive Evaluation
  | isEnabled (name : String) (context : Context)
  | variant (name : String) (context : Context) (spare : String)

def Evaluation.name : Evaluation → String
  | isEnabled name _ => name
  | variant name _ _ => name

/-- The evaluations of a question, in their order. All is as much as each toggle that is listed. -/
def evaluations (c : Client) : Read → List Evaluation
  | .isEnabled name context _ => [.isEnabled name context]
  | .variant name context _ spare => [.variant name context spare]
  | .all context => c.snapshot.toggles.map (.isEnabled ·.name context)
  | .known => []

/-- A context with the name of the application and the environment of the client where it has none
of its own. -/
def fill (c : Client) (context : Context) : Context :=
  { context with
    appName := some (context.appName.getD c.settings.appName)
    environment := some (context.environment.getD c.settings.environment) }

/-- How the engine is asked. -/
def call (c : Client) : Evaluation → Call
  | .isEnabled name _ => .isEnabled name
  | .variant name context spare => .variant name (c.fill context) spare

/-- What is told of an evaluation of a toggle. -/
def impressionOf (c : Client) (t : Toggle) : Evaluation → Impression
  | .isEnabled name context =>
    ⟨.isEnabled, name, t.enabled, none, c.fill context, (c.fill context).fingerprint name⟩
  | .variant name context spare =>
    ⟨.getVariant, name, t.enabled, some (t.variantFor (c.fill context) spare).name, c.fill context,
      (c.fill context).fingerprint name⟩

/-- The impression of an evaluation: someone listens, the toggle is known and has impressions. -/
def impression? (c : Client) (e : Evaluation) : Option Impression :=
  ((c.snapshot.get? e.name).filter fun t => c.hasListener && t.impressionData).map
    (c.impressionOf · e)

/-- Impressions that are raised now, as they stand in the log. -/
def entriesOf (c : Client) (is : List Impression) : List (Nat × Entry) :=
  is.map fun i => (c.now, .notice (.impression i))

/-- The client after evaluations: the engine has counted them, their impressions stand at the end of
the log, and all else is as it was. -/
def evaluated (c : Client) (es : List Evaluation) : Client :=
  c.update fun s => { s with
    engine := s.engine.afterAll (es.map c.call)
    log := s.log ++ c.entriesOf (es.filterMap c.impression?) }

variable {c : Client}

@[simp] theorem entriesOf_nil (c : Client) : c.entriesOf [] = [] := rfl

theorem entriesOf_append (c : Client) (is is' : List Impression) :
    c.entriesOf (is ++ is') = c.entriesOf is ++ c.entriesOf is' := List.map_append

theorem contextFor_eq (c : Client) (context : Context) : c.contextFor context = c.fill context := by
  unfold contextFor Context.withDefaults fill
  cases context.appName <;> cases context.environment <;> rfl

/-! ## One evaluation -/

theorem update_congr {f g : Sync → Sync} (h : f c.sync = g c.sync) : c.update f = c.update g :=
  congrArg (fun state => { c with coordinator := { c.coordinator with
    machine := { c.coordinator.machine with state } } }) h

theorem update_eq_self {f : Sync → Sync} (h : f c.sync = c.sync) : c.update f = c :=
  update_congr (g := id) h

theorem evaluated_nil (c : Client) : c.evaluated [] = c :=
  update_eq_self (by simp [Engine.afterAll])

/-- An evaluation at which the engine goes over into another state, and the impression of it. -/
def counted (c : Client) (engine : Engine) (i : Option Impression) : Client :=
  c.update fun s => { s with
    engine := engine
    log := s.log ++ c.entriesOf i.toList }

theorem evaluated_singleton (c : Client) (e : Evaluation) :
    c.evaluated [e] = c.counted (c.sync.engine.after (c.call e)) (c.impression? e) := by
  apply update_congr
  rw [List.filterMap_cons]
  cases c.impression? e <;> rfl

theorem counted_none (c : Client) : c.counted c.sync.engine none = c :=
  update_eq_self (by simp)

/-- To tell of an evaluation is to raise its impression, if someone listens. -/
theorem tell_counted (c : Client) (engine : Engine) (impressions : Bool) (i : Impression)
    (h : i.fingerprint = i.context.fingerprint i.toggle) :
    (if impressions then
        (c.update ({ · with engine })).tell i.kind i.toggle i.enabled i.variant i.context
      else c.update ({ · with engine })) =
      c.counted engine (if c.hasListener && impressions then some i else none) := by
  have hsilent : c.update ({ · with engine }) = c.counted engine none :=
    update_congr (by simp)
  have hlistener : (c.update ({ · with engine })).hasListener = c.hasListener := rfl
  unfold tell
  rw [hlistener, ← h]
  cases impressions <;> cases c.hasListener <;> first | exact hsilent | rfl

/-- No evaluation changes the toggles. -/
theorem snapshot_after_call (c : Client) (e : Evaluation) :
    (c.sync.engine.after (c.call e)).snapshot = c.sync.engine.snapshot := by
  rw [Engine.snapshot_after]
  cases e <;> rfl

theorem impression?_of_unknown {e : Evaluation} (h : c.snapshot.get? e.name = none) :
    c.impression? e = none := by
  rw [impression?, h]
  rfl

theorem impression?_of_known {e : Evaluation} {t : Toggle} (h : c.snapshot.get? e.name = some t) :
    c.impression? e =
      if c.hasListener && t.impressionData then some (c.impressionOf t e) else none := by
  rw [impression?, h, Option.filter_some]
  split <;> rfl

/-- A toggle that is not known is not counted, and nothing is told. -/
theorem evaluated_of_unknown {e : Evaluation} (h : c.snapshot.get? e.name = none) :
    c.evaluated [e] = c := by
  have hasked : (c.call e).toggle? = some e.name := by cases e <;> rfl
  rw [evaluated_singleton, impression?_of_unknown h, Engine.after_of_unknown hasked h, counted_none]

theorem isEnabled_eq (c : Client) (name : String) (context : Context) (default : Bool) :
    c.isEnabled name context default =
      (c.evaluated [.isEnabled name context],
        ((c.snapshot.get? name).map (·.enabled)).getD default) := by
  let e : Evaluation := .isEnabled name context
  cases ht : c.snapshot.get? name with
  | none =>
    have hasked : c.sync.engine.isEnabled name = (none, c.sync.engine) := by
      unfold snapshot at ht
      simp only [Engine.isEnabled, ht]
    rw [evaluated_of_unknown (e := e) ht]
    simp only [isEnabled, hasked]
    rw [update_eq_self rfl]
    rfl
  | some t =>
    have hasked : c.sync.engine.isEnabled name =
        (some ⟨t.enabled, t.impressionData⟩, c.sync.engine.after (c.call e)) := by
      unfold snapshot at ht
      simp only [e, call, Engine.after, Engine.isEnabled, ht]
    have htold := c.tell_counted (c.sync.engine.after (c.call e)) t.impressionData
      (c.impressionOf t e) rfl
    rw [evaluated_singleton, impression?_of_known (e := e) ht, ← htold]
    simp only [isEnabled, hasked, contextFor_eq]
    rfl

/-- A context without stickiness value takes the key `spare`. -/
theorem variant_eq (c : Client) (name : String) (context : Context) (default : Variant)
    (spare : String) :
    c.variant name context default spare =
      (c.evaluated [.variant name context spare],
        ((c.snapshot.get? name).map (·.variantFor (c.fill context) spare)).getD default) := by
  let e : Evaluation := .variant name context spare
  cases ht : c.snapshot.get? name with
  | none =>
    have hasked : c.sync.engine.variant name (c.fill context) spare = (none, c.sync.engine) := by
      unfold snapshot at ht
      simp only [Engine.variant, ht]
    rw [evaluated_of_unknown (e := e) ht]
    simp only [variant, contextFor_eq, hasked]
    rw [update_eq_self rfl]
    rfl
  | some t =>
    have hasked : c.sync.engine.variant name (c.fill context) spare =
        (some (t.variantFor (c.fill context) spare), c.sync.engine.after (c.call e)) := by
      unfold snapshot at ht
      simp only [e, call, Engine.after, Engine.variant, ht]
    have himpressions :
        (c.sync.engine.after (c.call e)).impressionData name = t.impressionData := by
      have hkept := c.snapshot_after_call e
      unfold snapshot at ht
      rw [Engine.impressionData, hkept, ht]
      rfl
    have htold := c.tell_counted (c.sync.engine.after (c.call e)) t.impressionData
      (c.impressionOf t e) rfl
    rw [evaluated_singleton, impression?_of_known (e := e) ht, ← htold]
    simp only [variant, hasked, contextFor_eq, himpressions, Toggle.featureEnabled_variantFor]
    rfl

/-! ## Several evaluations -/

theorem snapshot_evaluated (c : Client) (es : List Evaluation) :
    (c.evaluated es).snapshot = c.snapshot := by
  have hnone : updatesOf (es.map c.call) = [] := by
    rw [updatesOf, List.filterMap_map, List.filterMap_eq_nil_iff]
    intro e _
    cases e <;> rfl
  calc (c.evaluated es).snapshot
    _ = (c.sync.engine.afterAll (es.map c.call)).snapshot := rfl
    _ = c.snapshot := by
      rw [Engine.snapshot_afterAll, hnone]
      rfl

theorem impression?_evaluated (c : Client) (es : List Evaluation) (e : Evaluation) :
    (c.evaluated es).impression? e = c.impression? e := by
  rw [impression?, snapshot_evaluated]
  rfl

theorem evaluated_append (c : Client) (es es' : List Evaluation) :
    (c.evaluated es).evaluated es' = c.evaluated (es ++ es') := by
  have himpressions : es'.filterMap (c.evaluated es).impression? = es'.filterMap c.impression? :=
    List.filterMap_congr fun e _ => c.impression?_evaluated es e
  have htwice : (c.evaluated es).evaluated es' = c.update fun s => { s with
      engine := (s.engine.afterAll (es.map c.call)).afterAll (es'.map c.call)
      log := s.log ++ c.entriesOf (es.filterMap c.impression?) ++
        c.entriesOf (es'.filterMap c.impression?) } := by
    rw [← himpressions]
    rfl
  rw [htwice]
  apply update_congr
  simp only [List.map_append, List.filterMap_append, List.append_assoc, entriesOf_append,
    Engine.afterAll, List.foldl_append]

/-- To ask for each toggle of a list is to evaluate them in turn. The answer under each name is the
one to its own question. -/
theorem foldl_askAll (context : Context) (names : List String) (c : Client)
    (answers : Table Bool) :
    (names.foldl (askAll context) (c, answers)).1 =
        c.evaluated (names.map (.isEnabled · context)) ∧
      ∀ name, (names.foldl (askAll context) (c, answers)).2.get? name =
        if name ∈ names then some (((c.snapshot.get? name).map (·.enabled)).getD false)
        else answers.get? name := by
  induction names generalizing c answers with
  | nil =>
    refine ⟨c.evaluated_nil.symm, fun name => ?_⟩
    rw [if_neg List.not_mem_nil]
    rfl
  | cons first names ih =>
    have hstep : askAll context (c, answers) first =
        (c.evaluated [.isEnabled first context],
          answers.put first (((c.snapshot.get? first).map (·.enabled)).getD false)) := by
      simp only [askAll, isEnabled_eq]
    obtain ⟨hclient, hanswers⟩ := ih (c.evaluated [.isEnabled first context])
      (answers.put first (((c.snapshot.get? first).map (·.enabled)).getD false))
    rw [List.foldl_cons, hstep]
    refine ⟨hclient.trans (c.evaluated_append _ _), fun name => ?_⟩
    rw [hanswers, snapshot_evaluated, Table.get?_put]
    by_cases hfirst : name = first
    · simp [hfirst]
    · simp [hfirst]

theorem names_known (c : Client) : c.known.map (·.name) = c.snapshot.toggles.map (·.name) := by
  unfold known Engine.known
  rw [List.map_map]
  rfl

theorem mem_known_iff (c : Client) (name : String) :
    name ∈ c.known.map (·.name) ↔ ¬ c.snapshot.Lacks name := by
  rw [names_known]
  simp [Collection.Lacks]

/-- A question is nothing but its evaluations. -/
theorem afterRead_eq (c : Client) (r : Read) : c.afterRead r = c.evaluated (c.evaluations r) := by
  cases r with
  | isEnabled name context default => rw [afterRead, isEnabled_eq]; rfl
  | variant name context default spare => rw [afterRead, variant_eq]; rfl
  | all context =>
    have hfold := (foldl_askAll context (c.known.map (·.name)) c ∅).1
    rw [names_known, List.map_map] at hfold
    rw [afterRead, all, names_known]
    exact hfold
  | known => exact c.evaluated_nil.symm

theorem evaluated_of_unknowns {es : List Evaluation} (h : ∀ e ∈ es, c.snapshot.get? e.name = none) :
    c.evaluated es = c := by
  induction es with
  | nil => exact c.evaluated_nil
  | cons e es ih =>
    obtain ⟨he, hes⟩ := List.forall_mem_cons.mp h
    rw [← List.singleton_append, ← evaluated_append, evaluated_of_unknown he, ih hes]

/-! ## Runs -/

/-- Something that happens to a client: a question, a move of a task's loop, time that passes, a
mode that is asked for, a call of the stream, another server, or the end. -/
inductive Act
  | read (r : Read)
  | move (i : Nat) (v : Move)
  | pass (now : Nat)
  | change (mode : Mode)
  | takeRequests
  | call (x : StreamCall)
  | server (answers : List Answer) (startFailure : Option Failure)
  | close

def after (c : Client) : Act → Client
  | .read r => c.afterRead r
  | .move i v => c.withMachine (c.coordinator.machine.move Sync.behaviour i v)
  | .pass now => c.withMachine { c.coordinator.machine with now }
  | .change mode => { c with coordinator := (c.coordinator.changeMode mode).1 }
  | .takeRequests => c.update ({ · with requests := [] })
  | .call x => c.update fun s => (s.listen x).1
  | .server answers startFailure =>
    c.update fun s => { s with backend := { s.backend with answers, startFailure } }
  | .close => c.close.1

def afterAll (c : Client) (acts : List Act) : Client := acts.foldl after c

/-- A question, and the client as it was when it was asked. -/
structure Reading where
  client : Client
  read : Read

def Act.reading? (c : Client) : Act → Option Reading
  | .read r => some ⟨c, r⟩
  | _ => none

/-- The questions of a run, in their order. -/
def readings : Client → List Act → List Reading
  | _, [] => []
  | c, a :: acts => (a.reading? c).toList ++ readings (c.after a) acts

def Reading.impressions (x : Reading) : List Impression :=
  (x.client.evaluations x.read).filterMap x.client.impression?

theorem seen_evaluated (c : Client) (es : List Evaluation) :
    (c.evaluated es).sync.seen .impressions =
      c.sync.seen .impressions ++ es.filterMap c.impression? := by
  have hentries : ∀ is : List Impression,
      (c.entriesOf is).filterMap (fun e => View.impressions.see e.2) = is := by
    intro is
    rw [entriesOf, List.filterMap_map]
    exact List.filterMap_some
  calc (c.evaluated es).sync.seen .impressions
    _ = c.sync.seen .impressions ++ (c.entriesOf (es.filterMap c.impression?)).filterMap
        (fun e => View.impressions.see e.2) := List.filterMap_append
    _ = c.sync.seen .impressions ++ es.filterMap c.impression? := by rw [hentries]

/-- Only a question raises impressions: its own. -/
theorem seen_after (c : Client) (a : Act) :
    (c.after a).sync.seen .impressions =
      c.sync.seen .impressions ++ (a.reading? c).toList.flatMap Reading.impressions := by
  have hdiscreet : ∀ {t : Sync}, c.sync.Discreet t →
      t.seen .impressions = c.sync.seen .impressions ++ [] :=
    fun h => Eq.trans h (List.append_nil _).symm
  cases a with
  | read r =>
    rw [after, afterRead_eq, seen_evaluated]
    simp [Act.reading?, Reading.impressions]
  | move i v => exact hdiscreet (c.coordinator.machine.discreet_move i v)
  | pass now => exact hdiscreet (.refl _)
  | change mode => exact hdiscreet (c.coordinator.discreet_activate mode false)
  | takeRequests => exact hdiscreet (Sync.discreet_of_log rfl)
  | call x => exact hdiscreet (c.sync.discreet_listen x)
  | server answers startFailure => exact hdiscreet (Sync.discreet_of_log rfl)
  | close =>
    apply hdiscreet
    show c.sync.Discreet c.close.1.sync
    unfold close
    split
    · exact .refl _
    · exact c.coordinator.discreet_dispose

theorem seen_afterAll (c : Client) (acts : List Act) :
    (c.afterAll acts).sync.seen .impressions =
      c.sync.seen .impressions ++ (c.readings acts).flatMap Reading.impressions := by
  induction acts generalizing c with
  | nil => exact (List.append_nil _).symm
  | cons a acts ih =>
    calc (c.afterAll (a :: acts)).sync.seen .impressions
      _ = (c.after a).sync.seen .impressions ++
          ((c.after a).readings acts).flatMap Reading.impressions := ih (c.after a)
      _ = c.sync.seen .impressions ++ (c.readings (a :: acts)).flatMap Reading.impressions := by
        rw [seen_after, readings, List.flatMap_append, List.append_assoc]

theorem built_start (s : Settings) (i : Identity) (p : Parts) :
    (start s i p).1.settings = s ∧ (start s i p).1.hasListener = p.hasListener := ⟨rfl, rfl⟩

/-- What a client was built with stays as it is. -/
theorem built_after (c : Client) (a : Act) :
    (c.after a).settings = c.settings ∧ (c.after a).hasListener = c.hasListener := by
  cases a with
  | read r =>
    rw [after, afterRead_eq]
    exact ⟨rfl, rfl⟩
  | close =>
    show c.close.1.settings = c.settings ∧ c.close.1.hasListener = c.hasListener
    unfold close
    split <;> exact ⟨rfl, rfl⟩
  | _ => exact ⟨rfl, rfl⟩

theorem built_of_mem_readings {c : Client} {acts : List Act} {x : Reading}
    (h : x ∈ c.readings acts) :
    x.client.settings = c.settings ∧ x.client.hasListener = c.hasListener := by
  induction acts generalizing c with
  | nil => cases h
  | cons a acts ih =>
    obtain hfirst | hlater := List.mem_append.mp h
    · cases a with
      | read r =>
        cases List.mem_singleton.mp hfirst
        exact ⟨rfl, rfl⟩
      | _ => cases hfirst
    · obtain ⟨hsettings, hlistener⟩ := ih hlater
      obtain ⟨hsettings', hlistener'⟩ := c.built_after a
      exact ⟨hsettings.trans hsettings', hlistener.trans hlistener'⟩

theorem Step.exists_act {c c' : Client} {more : List Happening} (h : Step c more c') :
    ∃ a, c' = c.after a := by
  cases h with
  | move _ => exact ⟨.move _ _, rfl⟩
  | pass _ => exact ⟨.pass _, rfl⟩
  | change mode => exact ⟨.change mode, rfl⟩
  | takeRequests => exact ⟨.takeRequests, rfl⟩
  | call x => exact ⟨.call x, rfl⟩
  | server answers startFailure _ => exact ⟨.server answers startFailure, rfl⟩
  | enabled name context default => exact ⟨.read (.isEnabled name context default), rfl⟩
  | variant name context default spare => exact ⟨.read (.variant name context default spare), rfl⟩
  | close => exact ⟨.close, rfl⟩

/-- A life is a run of what happens to a client that was built. -/
theorem Lived.exists_acts {s : Settings} {i : Identity} {p : Parts} {c : Client}
    {history : List Happening} (h : Lived s i p c history) :
    ∃ first result acts, build s i p = .ok (first, result) ∧ c = first.afterAll acts := by
  induction h with
  | built hb => exact ⟨_, _, [], hb, rfl⟩
  | step _ hs ih =>
    obtain ⟨first, result, acts, hb, rfl⟩ := ih
    obtain ⟨a, rfl⟩ := hs.exists_act
    exact ⟨first, result, acts ++ [a], hb, by simp [afterAll]⟩

/-! ## The law -/

/-- A default is always the answer exactly where there is no other one. -/
theorem getD_eq_default_iff {α : Type} {o : Option α} {other : α → α} (h : ∀ a, other a ≠ a) :
    (∀ default, o.getD default = default) ↔ o = none := by
  cases o with
  | none => simp
  | some a => exact ⟨fun heq => absurd (heq (other a)).symm (h a), nofun⟩

theorem isEnabled_default_iff (c : Client) (name : String) (context : Context) :
    (∀ default, (c.isEnabled name context default).2 = default) ↔ c.snapshot.Lacks name := by
  simp only [isEnabled_eq, getD_eq_default_iff Bool.not_ne_self, Option.map_eq_none_iff,
    Collection.lacks_iff]

theorem variant_default_iff (c : Client) (name : String) (context : Context) (spare : String) :
    (∀ default, (c.variant name context default spare).2 = default) ↔ c.snapshot.Lacks name := by
  have hother : ∀ v : Variant, { v with enabled := !v.enabled } ≠ v :=
    fun v h => Bool.not_ne_self v.enabled (congrArg Variant.enabled h)
  simp only [variant_eq, getD_eq_default_iff hother, Option.map_eq_none_iff, Collection.lacks_iff]

theorem get?_all (c : Client) (context : Context) (name : String) (default : Bool) :
    (c.all context).2.get? name =
      if name ∈ c.known.map (·.name) then some (c.isEnabled name context default).2 else none := by
  rw [all, (foldl_askAll context (c.known.map (·.name)) c ∅).2]
  split
  · rename_i hmem
    rw [mem_known_iff, Collection.lacks_iff] at hmem
    obtain ⟨t, ht⟩ := Option.ne_none_iff_exists'.mp hmem
    rw [isEnabled_eq, ht]
    rfl
  · rfl

theorem impression?_eq_some_iff (c : Client) (e : Evaluation) (i : Impression) :
    c.impression? e = some i ↔ c.hasListener = true ∧
      ∃ t, c.snapshot.IsFirst e.name t ∧ t.impressionData = true ∧ i = c.impressionOf t e := by
  simp only [Collection.isFirst_iff]
  cases ht : c.snapshot.get? e.name with
  | none => simp [impression?_of_unknown ht]
  | some t =>
    rw [impression?_of_known ht, Option.ite_none_right_eq_some, Bool.and_eq_true]
    constructor
    · rintro ⟨⟨hlistener, hdata⟩, hi⟩
      exact ⟨hlistener, t, rfl, hdata, (Option.some.inj hi).symm⟩
    · rintro ⟨hlistener, _, ht', hdata, rfl⟩
      cases ht'
      exact ⟨⟨hlistener, hdata⟩, rfl⟩

/-- Whatever a client has lived through, it answers with the first of its toggles that has the
name, and with the default of the one who asks if and only if none has it. A question leaves the
toggles as they are, and the whole client where it asks for none of them; else it only counts, as
the engine does for each evaluation by itself, and raises impressions. There is one for each
evaluation of a toggle that has them, if someone listens, with the context as it was given and what
the client adds where it was left open. So what was raised in a life, whenever its toggles changed
and whenever it was closed, is what its questions raised, one after the other. -/
theorem questions_only_count_and_tell (c : Client) :
    (∀ (name : String) (context : Context) (spare : String),
      ((∀ default, (c.isEnabled name context default).2 = default) ↔ c.snapshot.Lacks name) ∧
      ((∀ default, (c.variant name context default spare).2 = default) ↔ c.snapshot.Lacks name) ∧
      (∀ t, c.snapshot.IsFirst name t →
        (∀ default, (c.isEnabled name context default).2 = t.enabled) ∧
        ∀ default, (c.variant name context default spare).2 =
          t.variantFor (c.fill context) spare) ∧
      c.known.map (·.name) = c.snapshot.toggles.map (·.name) ∧
      ∀ default, (c.all context).2.get? name =
        if name ∈ c.known.map (·.name) then some (c.isEnabled name context default).2 else none) ∧
    (∀ r, c.afterRead r = c.evaluated (c.evaluations r) ∧
      (c.afterRead r).snapshot = c.snapshot ∧
      ((∀ e ∈ c.evaluations r, c.snapshot.Lacks e.name) → c.afterRead r = c)) ∧
    (∀ e i, c.impression? e = some i ↔ c.hasListener = true ∧
      ∃ t, c.snapshot.IsFirst e.name t ∧ t.impressionData = true ∧ i = c.impressionOf t e) ∧
    (∀ acts, (c.afterAll acts).sync.seen .impressions =
        c.sync.seen .impressions ++ (c.readings acts).flatMap (·.impressions) ∧
      ∀ x ∈ c.readings acts,
        x.client.settings = c.settings ∧ x.client.hasListener = c.hasListener) ∧
    ∀ s i p history, Lived s i p c history →
      ∃ first result acts, build s i p = .ok (first, result) ∧ c = first.afterAll acts ∧
        c.sync.seen .impressions = (first.readings acts).flatMap (·.impressions) ∧
        ∀ x ∈ first.readings acts,
          x.client.settings = s ∧ x.client.hasListener = p.hasListener := by
  refine ⟨?_, ?_, c.impression?_eq_some_iff, ?_, ?_⟩
  · intro name context spare
    refine ⟨c.isEnabled_default_iff name context, c.variant_default_iff name context spare, ?_,
      c.names_known, c.get?_all context name⟩
    intro t ht
    rw [Collection.isFirst_iff] at ht
    exact ⟨fun default => by rw [isEnabled_eq, ht]; rfl,
      fun default => by rw [variant_eq, ht]; rfl⟩
  · intro r
    have hread := c.afterRead_eq r
    refine ⟨hread, ?_, fun hlacks => ?_⟩
    · rw [hread, snapshot_evaluated]
    · rw [hread]
      exact evaluated_of_unknowns fun e he => (Collection.lacks_iff _ _).mp (hlacks e he)
  · exact fun acts => ⟨c.seen_afterAll acts, fun x => built_of_mem_readings⟩
  · intro s i p history hlived
    obtain ⟨first, result, acts, hbuilt, rfl⟩ := hlived.exists_acts
    obtain rfl : first = (start s i p).1 := congrArg Prod.fst (start_of_build hbuilt)
    obtain ⟨hsettings, hlistener⟩ := built_start s i p
    refine ⟨_, result, acts, hbuilt, rfl, ?_, fun x hx => ?_⟩
    · rw [seen_afterAll, impressions_of_build hbuilt, List.nil_append]
    · have hx' := built_of_mem_readings hx
      exact ⟨hx'.1.trans hsettings, hx'.2.trans hlistener⟩

/-- A client that someone listens to, and that has got two toggles of one name. -/
def listened : Parts :=
  { replying [⟨200, some "v1", textBytes ("\x7b\"version\":2,\"features\":[" ++
      "\x7b\"name\":\"dark-mode\",\"enabled\":true,\"impressionData\":true\x7d," ++
      "\x7b\"name\":\"dark-mode\",\"impressionData\":true\x7d]\x7d"), false⟩] with
    hasListener := true }

def darkMode : Toggle := ⟨"dark-mode", true, none, none, true, []⟩

theorem a_listener_is_told_of_dark_mode :
    let c := (start (prompt false) promptIdentity listened).1
    let staged : Context := { Context.empty with environment := some "staging" }
    let acts : List Act := [.read (.isEnabled "darkmode" staged true), .close,
      .read (.variant "dark-mode" staged ⟨"", false, false, none⟩ ""), .read (.all .empty)]
    c.snapshot.IsFirst "dark-mode" darkMode ∧ c.snapshot.Lacks "darkmode" ∧
      Lived (prompt false) promptIdentity listened c (opening (prompt false) listened) ∧
      (∃ first result acts, build (prompt false) promptIdentity listened = .ok (first, result) ∧
        c = first.afterAll acts ∧
        c.sync.seen .impressions = (first.readings acts).flatMap (·.impressions) ∧
        ∀ x ∈ first.readings acts,
          x.client.settings = prompt false ∧ x.client.hasListener = true) ∧
      (c.isEnabled "dark-mode" staged false).2 = true ∧
      (c.isEnabled "darkmode" staged true).2 = true ∧
      c.afterRead (.isEnabled "darkmode" staged true) = c ∧
      c.impression? (.isEnabled "dark-mode" staged) =
        some (c.impressionOf darkMode (.isEnabled "dark-mode" staged)) ∧
      ((c.afterAll acts).sync.seen .impressions).map
          (fun i => (i.kind, i.toggle, i.enabled, i.context.appName, i.context.environment)) =
        [(.getVariant, "dark-mode", true, some "billing", some "staging"),
          (.isEnabled, "dark-mode", true, some "billing", some "default"),
          (.isEnabled, "dark-mode", true, some "billing", some "default")] := by
  intro c staged acts
  have hheld : c.snapshot.toggles = [darkMode, { darkMode with enabled := false }] := by
    decide +kernel
  have hfirst : c.snapshot.IsFirst "dark-mode" darkMode := ⟨[], _, hheld, rfl, nofun⟩
  have hlacks : c.snapshot.Lacks "darkmode" := by
    rw [Collection.Lacks, hheld]
    decide
  have hlived := lived_of_prompt false listened
  have hlistener := (built_start (prompt false) promptIdentity listened).2
  obtain ⟨hanswers, hreads, himpressions, hruns, hlives⟩ := questions_only_count_and_tell c
  refine ⟨hfirst, hlacks, hlived, hlives _ _ _ _ hlived, ?_, ?_, ?_, ?_, ?_⟩
  · exact ((hanswers "dark-mode" staged "").2.2.1 darkMode hfirst).1 false
  · exact (hanswers "darkmode" staged "").1.mpr hlacks true
  · refine (hreads _).2.2 ?_
    intro e he
    cases List.mem_singleton.mp he
    exact hlacks
  · exact (himpressions _ _).mpr ⟨hlistener, darkMode, hfirst, rfl, rfl⟩
  · rw [(hruns acts).1]
    decide +kernel

end Client

end ToggleSync
