-- What a client finds again after a restart. A polled backup is the payload as the server sent it,
-- and not the toggles that it led to. So a full state and a delta with a new start are restored as
-- they were served; of any other delta only what the delta itself says comes back.
import ToggleSync.Client
import ToggleSync.Proofs.LastChange
import ToggleSync.Proofs.StateText
import ToggleSync.Proofs.StoredTag
import ToggleSync.Proofs.PollingRun

namespace ToggleSync

/-! ## Payloads taken over nothing -/

theorem Collection.get?_eq_none_iff (c : Collection) (name : String) :
    c.get? name = none ↔ c.holds name = false := by
  simp [get?, holds]

namespace Update

/-- What comes of the payload does not rest on earlier toggles. -/
def standsAlone : Update → Bool
  | .full _ => true
  | .delta changes => changes.any (·.isHydration)

/-- What comes of the payload under a name does not rest on earlier toggles. -/
def settles (name : String) : Update → Bool
  | .full _ => true
  | .delta changes => touches changes name

theorem applyTo_of_standsAlone {u : Update} (h : u.standsAlone = true) (c c' : Collection) :
    u.applyTo c = u.applyTo c' := by
  cases u with
  | full collection => rfl
  | delta changes =>
    unfold applyTo
    simp only
    induction changes generalizing c c' with
    | nil => cases h
    | cons x changes ih =>
      rw [List.foldl_cons, List.foldl_cons]
      by_cases hx : x.isHydration
      · cases x with
        | hydration id toggles => rfl
        | updated id toggle => cases hx
        | removed id name project => cases hx
      · apply ih
        simpa [standsAlone, hx] using h

/-- A payload that rests on earlier toggles keeps their version. -/
theorem version_of_restored {u : Update} {c : Collection} (h : u.applyTo .empty = u.applyTo c) :
    u.standsAlone = true ∨ c.version = 0 := by
  cases u with
  | full collection => exact Or.inl rfl
  | delta changes =>
    by_cases hs : changes.any (·.isHydration)
    · exact Or.inl hs
    · right
      have hv := congrArg Collection.version h
      rw [version_delta, version_delta, if_neg hs, if_neg hs] at hv
      exact hv.symm

/-- Under every name the same is found as over earlier toggles, if and only if the payload says
something of each name that they hold. -/
theorem lookups_of_restored (u : Update) (c : Collection) :
    (∀ name, (u.applyTo .empty).get? name = (u.applyTo c).get? name) ↔
      ∀ name, c.holds name = true → u.settles name = true := by
  cases u with
  | full collection => exact ⟨fun _ _ _ => rfl, fun _ _ => rfl⟩
  | delta changes =>
    apply forall_congr'
    intro name
    rw [get?_delta, get?_delta]
    cases ht : touches changes name with
    | true =>
      have hsame := lookupAfter_of_touched ht (Collection.empty.get? name) (c.get? name)
      simp [settles, ht, hsame]
    | false =>
      rw [lookupAfter_of_untouched ht, lookupAfter_of_untouched ht]
      have hempty : Collection.empty.get? name = none := rfl
      rw [hempty]
      cases hh : c.holds name with
      | false => simp [(c.get?_eq_none_iff name).mpr hh]
      | true =>
        have hg : c.get? name ≠ none := by
          rw [ne_eq, c.get?_eq_none_iff, hh]
          simp
        simp [settles, ht, hg.symm]

end Update

/-! ## The files after a cycle -/

namespace Sync

theorem keeping_hear (s : Sync) (now : Nat) (q : Polling.Question)
    (outcome : Except Failure Fetched) : (s.hear now q outcome).1.keeping = s.keeping := by
  unfold hear
  split
  · split <;> rfl
  · rfl

theorem keeping_announcement (p : Polling) (now : Nat) (s : Sync) :
    (p.announcement.foldl (perform now) s).keeping = s.keeping := by
  unfold Polling.announcement
  split
  · rfl
  · simp only [List.foldl_cons, List.foldl_nil, perform, fireReady]
    split <;> rfl

/-- A cycle that is accepted writes its backup into the files. -/
theorem keeping_of_accepted {s : Sync} {t : Turn} {b : Backup} {store : Backup.Store}
    {disk : Backup.Disk} (h : accepted? s.polling.tag t.outcome = some b)
    (hk : s.keeping = .files store disk) :
    (s.cycle t).1.keeping = .files store (store.save disk b).medium := by
  let asked := (s.ask t.asked).1
  let heard := (asked.hear t.ended s.question t.outcome).1
  have hheard : heard.keeping = .files store disk := (keeping_hear asked _ _ _).trans hk
  have hp : heard.polling = asked.polling := (sameParts_hear asked _ _ _).polling
  have he : heard.engine = asked.engine := (sameParts_hear asked _ _ _).engine
  have hacc := (accepted?_heard asked s.question _ t.outcome).trans h
  have hcycle : (s.cycle t).1 = (asked.conclude t.ended s.question t.outcome).1 := rfl
  rw [hcycle]
  unfold conclude
  simp only [hear_heard]
  rw [hp, he, conclude_accepted _ _ _ hacc, List.foldl_append, keeping_announcement]
  apply (save_to_files _ t.ended b).1
  exact hheard

end Sync

/-! ## Restarting -/

namespace Backup

theorem load_of_files {store : Store} {read : Slot → Except IoFailure String}
    {state tag : String} (hs : read .state = .ok state) (ht : read .tag = .ok tag)
    (hb : store.bootstrap = none ∨ store.prefersBootstrap = false) :
    (store.load read).result = .ok ⟨state, tagOfText tag⟩ := by
  have hfiles : readFiles read = ⟨[.state, .tag], .ok (some ⟨state, tagOfText tag⟩)⟩ := by
    simp [readFiles, readPair, hs, ht]
  unfold Store.load
  rw [hfiles]
  rcases hb with hb | hb
  · simp [Store.choose, hb, Except.bind]
  · cases hboot : store.bootstrap <;> simp [Store.choose, hb, hboot, Except.bind]

/-- Polling begins with the tag of a file as it is. -/
theorem tag_new_tagOfText (text : String) :
    (Polling.new (tagOfText text)).tag = tagOfText text := by
  unfold Polling.new tagOfText
  split
  · rfl
  · rename_i h
    simpa using h

/-- A disk that reads and writes the files of the present layout without failures. -/
structure Disk.IsSound (d : Disk) (l : Location) : Prop where
  readsState : d.readFailures.get? l.state = none
  readsTag : d.readFailures.get? l.tag = none
  writesState : d.writeFailures.get? l.state = none
  writesTag : d.writeFailures.get? l.tag = none

/-- What was saved on a sound disk is read from it. -/
theorem read_saved {store : Store} {d : Disk} (hd : d.IsSound store.location)
    (hl : store.location.state ≠ store.location.tag) (b : Backup) :
    (store.save d b).medium.read store.location.state = .ok b.state ∧
      (store.save d b).medium.read store.location.tag = .ok (b.tag.getD "") := by
  rw [save_eq_saveFirst, saveFirst_both store d b 0, hd.writesState, hd.writesTag]
  simp [Disk.read, hd.readsState, hd.readsTag, Table.get?_put, hl]

end Backup

namespace Client

theorem restore_of_loaded {s : Sync} {store : Backup.Store} {disk : Backup.Disk} {state : String}
    {tag : Option String} {e : Engine} (hk : s.keeping = .files store disk)
    (hb : (store.load fun slot => disk.read (store.location.path slot)).result = .ok ⟨state, tag⟩)
    (hne : state.isEmpty = false) (he : s.engine.takeState state = .ok e) (now : Nat) :
    (restore s now).engine = e ∧ (restore s now).polling = .new tag := by
  have hload : (s.loadBackup now).2 = ⟨state, tag⟩ := by
    unfold Sync.loadBackup
    simp only [hk, hb]
  have hengine := (s.sameParts_loadBackup now).engine
  unfold restore Backup.isEmpty
  simp only [hload, hne, hengine, he, Bool.false_eq_true, if_false, and_self]

end Client

/-! ## The law -/

theorem after_of_read {text : String} {u : Update} (h : Update.read text = .ok u)
    (c : Collection) : c.after text = u.applyTo c := by
  rw [Collection.after, h]

/-- What a cycle serves that is accepted. -/
theorem served_of_accepted {s : Sync} {t : Turn} {b : Backup} {u : Update}
    (h : accepted? s.polling.tag t.outcome = some b) (hu : Update.read b.state = .ok u) :
    (s.cycle t).1.engine.snapshot = u.applyTo s.engine.snapshot := by
  have hc := (s.polled_cycle t).snapshot
  rw [h] at hc
  exact hc.trans (after_of_read hu s.engine.snapshot)

theorem saved_of_accepted {s : Sync} {t : Turn} {b : Backup}
    (h : accepted? s.polling.tag t.outcome = some b) :
    (s.cycle t).1.seen .backups = s.seen .backups ++ [b] := by
  have hc := (s.polled_cycle t).backups
  rw [h] at hc
  exact hc

/-- An accepted state is read, and there is something in it. -/
theorem read_of_accepted {sent : Option String} {outcome : Except Failure Fetched} {b : Backup}
    (h : accepted? sent outcome = some b) :
    (∃ u, Update.read b.state = .ok u) ∧ b.state.isEmpty = false := by
  obtain ⟨state, tag, _, rfl, _, _, hblank, hread⟩ := accepted?_eq_some h
  constructor
  · unfold isReadable at hread
    cases hu : Update.read state with
    | ok u => exact ⟨u, rfl⟩
    | error x =>
      rw [hu] at hread
      cases hread
  · have hne : state ≠ "" := by
      rintro rfl
      cases hblank
    simpa using hne

theorem snapshot_of_unchanged (s : Sync) {next : Turn} {f : Fetched} (h : next.outcome = .ok f)
    (hf : f.hasChanged = false) : (s.cycle next).1.engine.snapshot = s.engine.snapshot := by
  have hnone : accepted? s.polling.tag next.outcome = none := by
    obtain ⟨changed, state, tag⟩ := f
    simp only at hf
    rw [h, hf]
    rfl
  have hc := (s.polled_cycle next).snapshot
  rw [hnone] at hc
  exact hc

/-- A client that is restarted over the files of a polled backup begins with its tag, and with what
comes of its payload over nothing. -/
theorem restarted_from_files {s : Sync} {t : Turn} {b : Backup} {u : Update}
    {store : Backup.Store} {disk : Backup.Disk}
    (h : accepted? s.polling.tag t.outcome = some b) (hu : Update.read b.state = .ok u)
    (hk : s.keeping = .files store disk) (hl : store.location.state ≠ store.location.tag)
    (hd : disk.IsSound store.location)
    (hb : store.bootstrap = none ∨ store.prefersBootstrap = false) (backend : Backend)
    (must : Bool) (rules : Failover.Rules) (now : Nat) :
    let restarted :=
      Client.restore (.new backend none must rules (s.cycle t).1.keeping) now
    restarted.polling.tag = Backup.tagOfText (b.tag.getD "") ∧
      restarted.engine.snapshot = u.applyTo .empty := by
  intro restarted
  obtain ⟨h1, h2⟩ := Backup.read_saved hd hl b
  have hload : (store.load fun slot =>
      (store.save disk b).medium.read (store.location.path slot)).result =
      .ok ⟨b.state, Backup.tagOfText (b.tag.getD "")⟩ :=
    Backup.load_of_files h1 h2 hb
  have htake : (Engine.new .epoch).takeState b.state =
      .ok ⟨u.applyTo .empty, (Engine.new .epoch).usage⟩ := by
    simp only [Engine.takeState, hu]
    rfl
  obtain ⟨h3, h4⟩ := Client.restore_of_loaded
    (s := .new backend none must rules (s.cycle t).1.keeping) (Sync.keeping_of_accepted h hk)
    hload (read_of_accepted h).2 htake now
  refine ⟨?_, congrArg Engine.snapshot h3⟩
  exact (congrArg Polling.tag h4).trans (Backup.tag_new_tagOfText _)

/-- Every polling cycle whose state is accepted saves it once, as the server sent it. A fresh engine
takes it, and then holds what comes of the payload over nothing. That is what is served, exactly, if
the payload is a full state or holds a new start. Any other payload restores what is served exactly
only over toggles of version 0, and gives the same look-ups if and only if it says something of
every name that was held before. The same goes for a client that is restarted over the files, where
they are read and written without failures: it has the tag, and is left with these toggles by an
answer that nothing has changed. -/
theorem a_polled_backup_restores_what_its_payload_says (s : Sync) (t : Turn) (b : Backup)
    (h : accepted? s.polling.tag t.outcome = some b) :
    let served := (s.cycle t).1.engine.snapshot
    ∃ u : Update, Update.read b.state = .ok u ∧
      (s.cycle t).1.seen .backups = s.seen .backups ++ [b] ∧
      (∀ fresh : Engine, fresh.snapshot = .empty → ∃ restored,
        fresh.takeState b.state = .ok restored ∧ restored.snapshot = u.applyTo .empty) ∧
      (u.standsAlone = true → u.applyTo .empty = served) ∧
      (u.applyTo .empty = served → u.standsAlone = true ∨ s.engine.snapshot.version = 0) ∧
      ((∀ name, (u.applyTo .empty).get? name = served.get? name) ↔
        ∀ name, s.engine.snapshot.holds name = true → u.settles name = true) ∧
      ∀ (store : Backup.Store) (disk : Backup.Disk), s.keeping = .files store disk →
        store.location.state ≠ store.location.tag → disk.IsSound store.location →
        (store.bootstrap = none ∨ store.prefersBootstrap = false) →
        ∀ (backend : Backend) (must : Bool) (rules : Failover.Rules) (now : Nat),
          let restarted :=
            Client.restore (.new backend none must rules (s.cycle t).1.keeping) now
          restarted.polling.tag = Backup.tagOfText (b.tag.getD "") ∧
          restarted.engine.snapshot = u.applyTo .empty ∧
          ∀ (next : Turn) (f : Fetched), next.outcome = .ok f → f.hasChanged = false →
            (restarted.cycle next).1.engine.snapshot = u.applyTo .empty := by
  intro served
  obtain ⟨⟨u, hu⟩, _⟩ := read_of_accepted h
  have hserved : served = u.applyTo s.engine.snapshot := served_of_accepted h hu
  refine ⟨u, hu, saved_of_accepted h, ?_, ?_, ?_, ?_, ?_⟩
  · intro fresh hf
    refine ⟨{ fresh with snapshot := u.applyTo fresh.snapshot }, ?_, by rw [hf]⟩
    simp only [Engine.takeState, hu]
  · intro hs
    rw [hserved]
    exact Update.applyTo_of_standsAlone hs _ _
  · intro he
    rw [hserved] at he
    exact Update.version_of_restored he
  · rw [hserved]
    exact u.lookups_of_restored s.engine.snapshot
  · intro store disk hk hl hd hb backend must rules now
    obtain ⟨h1, h2⟩ := restarted_from_files h hu hk hl hd hb backend must rules now
    refine ⟨h1, h2, ?_⟩
    intro next f hn hf
    rw [snapshot_of_unchanged _ hn hf, h2]

/-! ## A payload that restores what is served, and one that does not -/

theorem accepted?_render (u : Update) {tag : String} (h : tag ≠ "") :
    accepted? none (.ok ⟨true, some u.render, some tag⟩) = some ⟨u.render, some tag⟩ := by
  have hread : isReadable u.render = true := by
    rw [isReadable, read_render]
    rfl
  simp [accepted?, h, not_blank_render, hread]

/-- The state of a client with these toggles, over these backups. -/
def Sync.holding (c : Collection) (keeping : Keeping) : Sync :=
  { Sync.new (.new [] none) none false .standard keeping with
    engine := { Engine.new .epoch with snapshot := c } }

/-- A full state over other toggles is found again in the files, and stays when nothing has
changed. -/
theorem a_full_state_is_found_again :
    let store : Backup.Store := ⟨⟨"s", "t", "ls", "lt"⟩, none, false⟩
    let disk : Backup.Disk := ⟨∅, ∅, ∅⟩
    let s := Sync.holding ⟨2, [.bare "alpha" true]⟩ (.files store disk)
    let b : Backup := ⟨(Update.full ⟨2, [.bare "beta" true]⟩).render, some "v1"⟩
    let t : Turn := ⟨0, 0, .ok ⟨true, some b.state, some "v1"⟩⟩
    let restarted :=
      Client.restore (.new (.new [] none) none false .standard (s.cycle t).1.keeping) 0
    accepted? s.polling.tag t.outcome = some b ∧ disk.IsSound store.location ∧
      restarted.polling.tag = some "v1" ∧
      (restarted.cycle ⟨1, 1, .ok .unchanged⟩).1.engine.snapshot =
        (s.cycle t).1.engine.snapshot := by
  intro store disk s b t restarted
  have hacc : accepted? s.polling.tag t.outcome = some b :=
    accepted?_render (.full ⟨2, [.bare "beta" true]⟩) (by decide)
  have hsound : disk.IsSound store.location := by constructor <;> rfl
  obtain ⟨u, hu, _, _, halone, _, _, hfiles⟩ :=
    a_polled_backup_restores_what_its_payload_says s t b hacc
  have hfull : u = .full ⟨2, [.bare "beta" true]⟩ :=
    Except.ok.inj (hu.symm.trans (read_render _))
  have hl : store.location.state ≠ store.location.tag := by decide
  obtain ⟨h1, _, h3⟩ :=
    hfiles store disk rfl hl hsound (Or.inl rfl) (.new [] none) false .standard 0
  have htag : Backup.tagOfText (b.tag.getD "") = some "v1" := by decide
  have hs : u.standsAlone = true := by simp [hfull, Update.standsAlone]
  have hserved := halone hs
  have hkept := h3 ⟨1, 1, .ok .unchanged⟩ .unchanged rfl rfl
  have hr : restarted =
      Client.restore (.new (.new [] none) none false .standard (s.cycle t).1.keeping) 0 := rfl
  rw [hr]
  exact ⟨hacc, hsound, h1.trans htag, hkept.trans hserved⟩

/-- A client holds "alpha", and polls a delta that only says that "beta" is on. It then serves both;
but an engine that takes its backup serves only "beta". -/
theorem a_polled_backup_may_forget_a_toggle :
    let s := Sync.holding ⟨2, [.bare "alpha" true]⟩ .nowhere
    let b : Backup := ⟨(Update.delta [.updated 2 (.bare "beta" true)]).render, some "v2"⟩
    let t : Turn := ⟨0, 0, .ok ⟨true, some b.state, some "v2"⟩⟩
    accepted? s.polling.tag t.outcome = some b ∧
      (s.cycle t).1.seen .backups = [b] ∧
      (s.cycle t).1.engine.snapshot.get? "alpha" = some (.bare "alpha" true) ∧
      ∀ fresh restored : Engine, fresh.snapshot = .empty →
        fresh.takeState b.state = .ok restored →
        restored.snapshot.get? "alpha" = none ∧
        restored.snapshot ≠ (s.cycle t).1.engine.snapshot := by
  intro s b t
  let u : Update := .delta [.updated 2 (.bare "beta" true)]
  have hacc : accepted? s.polling.tag t.outcome = some b := accepted?_render u (by decide)
  have hread : Update.read b.state = .ok u := read_render u
  have hserved : (s.cycle t).1.engine.snapshot = u.applyTo s.engine.snapshot :=
    served_of_accepted hacc hread
  refine ⟨hacc, saved_of_accepted hacc, ?_, ?_⟩
  · rw [hserved]
    decide
  · intro fresh restored hf htake
    have hrestored : restored.snapshot = u.applyTo .empty := by
      rw [Engine.takeState, hread] at htake
      cases htake
      simp only [hf]
    rw [hserved, hrestored]
    constructor
    · decide
    · intro h
      have hversion := congrArg Collection.version h
      revert hversion
      decide

end ToggleSync
