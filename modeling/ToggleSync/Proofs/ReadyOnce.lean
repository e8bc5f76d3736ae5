-- A client becomes ready once. Whatever calls of its coordinator are under way, and however the
-- cycles, the calls of the stream and the changes of the mode follow each other, the signal fires at
-- the first sign that there are toggles, provided that it comes before the disposal has stopped
-- everything, and never again.
import ToggleSync.Proofs.CallMoves

namespace ToggleSync

open Machine (clientToken)

/-! ## Signs of toggles -/

/-- Whether it is a sign that there are toggles: an answer without a state that cannot be read, or
a state on the stream that can be read. The answer is what the cycle has heard of it. -/
def Happening.welcomes : Happening → Bool
  | asked q (.ok f) =>
    match Polling.news? q.tag f with
    | none => true
    | some (state, _) => isReadable state
  | asked _ (.error _) => false
  | streamed text => isReadable text

namespace Sync

/-- It was said that there are toggles, by polling or by streaming. -/
def isAnnounced (s : Sync) : Bool := s.polling.announced || s.streaming.announced

/-- Between two states of a client there was a sign of toggles, or there was none. The first sign
fires the signal, and nothing else does. -/
structure Heeds (sign : Bool) (s s' : Sync) : Prop where
  announced : s'.isAnnounced = (s.isAnnounced || sign)
  rang : ∃ fire, Rang fire s s' ∧ (fire = true → sign = true) ∧
    (sign = true → s.isAnnounced = false → fire = true)

variable {s t u : Sync} {sign later : Bool}

theorem Heeds.trans (h : Heeds sign s t) (h' : Heeds later t u) : Heeds (sign || later) s u := by
  obtain ⟨fire, hrang, honly, hfirst⟩ := h.rang
  obtain ⟨fire', hrang', honly', hfirst'⟩ := h'.rang
  refine ⟨?_, fire || fire', hrang.trans hrang', ?_, ?_⟩
  · rw [h'.announced, h.announced, Bool.or_assoc]
  · rw [Bool.or_eq_true, Bool.or_eq_true]
    exact Or.imp honly honly'
  · intro hsign hs
    cases sign with
    | true => rw [hfirst rfl hs, Bool.true_or]
    | false =>
      have ht : t.isAnnounced = false := by rw [h.announced, hs, Bool.or_false]
      rw [hfirst' hsign ht, Bool.or_true]

theorem Calm.heeds (h : Calm s t) : Heeds false s t := by
  refine ⟨?_, false, h.rang, nofun, nofun⟩
  unfold isAnnounced
  rw [h.polling, h.announced, Bool.or_false]

theorem heeds_of_log (hr : t.ready = s.ready) (hl : t.log = s.log)
    (ha : t.isAnnounced = s.isAnnounced) : Heeds false s t :=
  ⟨ha.trans (Bool.or_false _).symm, false, rang_of_log hr hl, nofun, nofun⟩

/-- A cycle says that there are toggles when its answer is a sign of them, and polling has not said
so before. -/
theorem announced_cycleOf (s : Sync) (q : Polling.Question) (outcome : Except Failure Fetched) :
    let sign := (Happening.asked q (s.heard q outcome)).welcomes
    (s.cycleOf q outcome).polling.announced = (s.polling.announced || sign) ∧
      (s.cycleOf q outcome).effects.contains .announce = (sign && !s.polling.announced) := by
  unfold cycleOf
  generalize s.heard q outcome = heard
  cases heard with
  | ok f =>
    have hl := learnt_of_ok s.polling s.engine q f
    exact ⟨hl.announced, hl.effects⟩
  | error f => cases f <;> exact ⟨(Bool.or_false _).symm, rfl⟩

theorem heeds_conclude (s : Sync) (now : Nat) (q : Polling.Question)
    (outcome : Except Failure Fetched) :
    Heeds (Happening.asked q (s.heard q outcome)).welcomes s (s.conclude now q outcome).1 := by
  have hc := s.concluded now q outcome
  obtain ⟨hrang, _⟩ := s.rang_conclude now q outcome
  obtain ⟨hannounced, heffects⟩ := s.announced_cycleOf q outcome
  refine ⟨?_, _, hrang, ?_, ?_⟩
  · unfold isAnnounced
    rw [hc.polling, hc.streaming, hannounced]
    exact Bool.or_right_comm _ _ _
  · rw [heffects, Bool.and_eq_true]
    exact And.left
  · intro hsign hs
    rw [heffects, hsign, (Bool.or_eq_false_iff.mp hs).1]
    rfl

theorem heeds_listen (s : Sync) (x : StreamCall) :
    Heeds ((x.payload?.toList.map Happening.streamed).any (·.welcomes)) s (s.listen x).1 := by
  have ho := s.overheard x
  have hsign : (x.payload?.toList.map Happening.streamed).any (·.welcomes) =
      x.accepted?.isSome := by
    rw [StreamCall.accepted?]
    cases x.payload? with
    | none => rfl
    | some text =>
      rw [Option.filter_some]
      cases hr : isReadable text <;> simp [Happening.welcomes, hr]
  rw [hsign]
  refine ⟨?_, _, ho.rang, ?_, ?_⟩
  · unfold isAnnounced
    rw [ho.polling, ho.announced, Bool.or_assoc]
  · rw [Bool.and_eq_true]
    exact And.left
  · intro hx hs
    rw [hx, (Bool.or_eq_false_iff.mp hs).2]
    rfl

/-! ### The count -/

/-- The signal fires, and is told of, at the first sign that comes while it is armed. -/
theorem Heeds.signal (h : Heeds sign s t)
    (hfired : s.ready.armed = true → s.ready.fired = s.isAnnounced) :
    t.ready.armed = s.ready.armed ∧
      t.ready.fired = (s.ready.fired || (s.ready.armed && !s.isAnnounced && sign)) ∧
      t.readies = s.readies + (s.ready.armed && !s.isAnnounced && sign).toNat := by
  obtain ⟨fire, hrang, honly, hfirst⟩ := h.rang
  cases ha : s.ready.armed with
  | false =>
    obtain ⟨hready, hreadies⟩ := hrang.silent ha
    rw [hready, hreadies]
    simp [ha]
  | true =>
    have hknown := hfired ha
    cases hs : s.isAnnounced with
    | true =>
      have hcan : s.ready.canFire = false := by simp [Ready.canFire, hknown, hs]
      have hready : t.ready = s.ready := by simp [hrang.ready, Ready.fire, hcan]
      rw [hready, hrang.readies, hcan]
      simp [ha]
    | false =>
      have hcan : s.ready.canFire = true := by simp [Ready.canFire, hknown, hs, ha]
      have hfire : fire = sign := by
        rw [Bool.eq_iff_iff]
        exact ⟨honly, fun hsign => hfirst hsign hs⟩
      rw [hrang.ready, hrang.readies, hcan, hfire]
      cases sign with
      | true => simp [Ready.fire, hcan, ha]
      | false => simp [ha]

end Sync

/-! ## Steps -/

/-- Nothing of it says by itself that there are toggles. -/
def IsTacit (task : TaskSpec Job) (_ : String) : Prop := task.job ≠ .announce

theorem Machine.Beside.heeds {m m' : Machine} {items : List Happening} (h : m.Beside items m')
    (hm : m.tasks.Guarded IsTacit) : m.state.Heeds (items.any (·.welcomes)) m'.state := by
  cases h with
  | @move i l v hv =>
    have hends := move_ends hv (hm.loops l (List.mem_of_getElem? hv.loop))
    cases he : m.ends? l v with
    | none =>
      rw [he] at hends
      exact hends.heeds
    | some a =>
      rw [he] at hends
      obtain ⟨s, hcalm, hhttp, heq⟩ := hends
      have hheard : s.heard a.question a.outcome = m.state.heard a.question a.outcome := by
        unfold Sync.heard
        rw [hhttp]
      have hcycle := hcalm.heeds.trans (s.heeds_conclude m.now a.question a.outcome)
      rw [hheard, Bool.false_or] at hcycle
      rw [heq]
      simpa [Sync.told] using hcycle
  | pass _ => exact (Sync.Calm.refl _).heeds
  | call call => exact m.state.heeds_listen call
  | cancel => exact (Sync.Calm.refl _).heeds
  | serve answers startFailure => exact Sync.heeds_of_log rfl rfl rfl
  | count usage => exact (m.state.calm_engine _).heeds
  | tell i => exact (m.state.calm_raise m.now rfl).heeds
  | take requests listening => exact Sync.heeds_of_log rfl rfl rfl

namespace Underway

variable {x y : Underway} {items history : List Happening}

/-- What a step does to the signal: it heeds the signs in it, or it is the one with which the
disposal disarms the signal. -/
theorem Step.signals (h : Step x items y) (hx : x.machine.tasks.Guarded IsTacit) :
    (y.leaving.isDone = x.leaving.isDone ∧ x.sync.Heeds (items.any (·.welcomes)) y.sync) ∨
      (items = [] ∧ x.leaving.isDone = false ∧ y.leaving.isDone = true ∧
        y.sync.ready = x.sync.ready.disarm ∧ y.sync.readies = x.sync.readies ∧
        y.sync.isAnnounced = x.sync.isAnnounced) := by
  have hcalm : ∀ {z : Underway}, z.leaving.isDone = x.leaving.isDone → x.sync.Calm z.sync →
      z.leaving.isDone = x.leaving.isDone ∧ x.sync.Heeds false z.sync :=
    fun hd hc => ⟨hd, hc.heeds⟩
  cases h with
  | beside hb => exact .inl ⟨rfl, hb.heeds hx⟩
  | change mode _ _ => exact .inl (hcalm rfl (x.coordinator.worked_begin mode false).calm)
  | proceed _ => exact .inl (hcalm rfl (x.coordinator.worked_proceed _).calm)
  | @answer initial a _ =>
    have hcycle := x.sync.heeds_conclude x.machine.now a.question a.outcome
    have hon := (x.coordinator.worked_welcome initial a).calm
    have hboth := hcycle.trans hon.heeds
    rw [Bool.or_false] at hboth
    refine .inl ⟨rfl, ?_⟩
    rw [List.any_cons, List.any_nil, Bool.or_false]
    exact hboth
  | callOff _ _ => exact .inl (hcalm rfl (.refl _))
  | drop => exact .inl (hcalm rfl (.refl _))
  | dispose hl => exact .inl (hcalm (by rw [hl]; rfl) (.refl _))
  | cancelAll hl => exact .inl (hcalm (by rw [hl]; rfl) (.refl _))
  | hold hl _ => exact .inl (hcalm (by rw [hl]; rfl) (.refl _))
  | hangUp hl => exact .inl (hcalm (by rw [hl]; rfl) (x.sync.calm_hangUp x.machine.now))
  | windDown hl =>
    have hsync := x.coordinator.halted_windDown.sync
    have hready := congrArg Sync.ready hsync
    have hreadies := congrArg Sync.readies hsync
    have hannounced := congrArg Sync.isAnnounced hsync
    exact .inr ⟨rfl, by rw [hl]; rfl, rfl, hready, hreadies, hannounced⟩
  | ended hl _ => exact .inl (hcalm (by rw [hl]; rfl) (.refl _))
  | late hl => exact .inl (hcalm (by rw [hl]; rfl) (.refl _))
  | done hl => exact .inl (hcalm (by rw [hl]; rfl) (.refl _))

/-! ## Runs -/

/-- What a client knows of the signs of toggles that there were so far. -/
structure Aware (x : Underway) (history : List Happening) : Prop where
  tacit : x.machine.tasks.Guarded IsTacit
  armed : x.sync.ready.armed = !x.leaving.isDone
  announced : x.sync.isAnnounced = history.any (·.welcomes)
  readies : x.sync.readies = x.sync.ready.fired.toNat
  fired : x.leaving.isDone = false → x.sync.ready.fired = history.any (·.welcomes)

/-- Whether the first sign of toggles comes now, and the disposal has not stopped everything. -/
def isFirstSign (x : Underway) (history items : List Happening) : Bool :=
  !x.leaving.isDone && !history.any (·.welcomes) && items.any (·.welcomes)

/-- What one step does to the signal. -/
structure Rings (x : Underway) (history items : List Happening) (y : Underway) : Prop where
  fired : y.sync.ready.fired = (x.sync.ready.fired || x.isFirstSign history items)
  readies : y.sync.readies = x.sync.readies + (x.isFirstSign history items).toNat
  done : x.leaving.isDone = true → y.leaving.isDone = true

/-- The first sign finds the signal not fired. -/
theorem Aware.unfired (h : x.Aware history) (hf : x.isFirstSign history items = true) :
    x.sync.ready.fired = false := by
  unfold isFirstSign at hf
  rw [Bool.and_eq_true, Bool.and_eq_true, Bool.not_eq_true', Bool.not_eq_true'] at hf
  rw [h.fired hf.1.1, hf.1.2]

theorem Aware.step (h : x.Aware history) (hs : Step x items y) :
    y.Aware (history ++ items) ∧ x.Rings history items y := by
  have htacit := hs.guarded h.tacit
  rcases hs.signals h.tacit with ⟨hdone, hheeds⟩ | ⟨rfl, hx, hy, hready, hreadies, hannounced⟩
  · have hknown : x.sync.ready.armed = true → x.sync.ready.fired = x.sync.isAnnounced := by
      intro ha
      rw [h.armed, Bool.not_eq_true'] at ha
      rw [h.fired ha, h.announced]
    obtain ⟨harmed, hfired, hreadies⟩ := hheeds.signal hknown
    rw [h.armed, h.announced] at hfired hreadies
    have hrings : x.Rings history items y := by
      refine ⟨hfired, hreadies, ?_⟩
      rw [hdone]
      exact id
    refine ⟨⟨htacit, ?_, ?_, ?_, ?_⟩, hrings⟩
    · rw [harmed, h.armed, hdone]
    · rw [hheeds.announced, h.announced, List.any_append]
    · rw [hrings.readies, hrings.fired, h.readies]
      cases hf : x.isFirstSign history items with
      | false => rw [Bool.or_false, Bool.toNat_false, Nat.add_zero]
      | true =>
        rw [h.unfired hf]
        rfl
    · intro hy
      have hx : x.leaving.isDone = false := hdone.symm.trans hy
      rw [hrings.fired, isFirstSign, h.fired hx, hx, List.any_append]
      cases history.any (·.welcomes) <;> rfl
  · have hfirst : x.isFirstSign history [] = false := by simp [isFirstSign]
    rw [List.append_nil]
    refine ⟨⟨htacit, ?_, ?_, ?_, ?_⟩, ?_, ?_, fun _ => hy⟩
    · rw [hready, hy]
      rfl
    · rw [hannounced, h.announced]
    · rw [hready, hreadies, h.readies]
      rfl
    · rw [hy]
      exact nofun
    · rw [hfirst, hready, Bool.or_false]
      rfl
    · rw [hfirst, hreadies]
      rfl

/-- What no run takes back. -/
structure Lasts (x y : Underway) : Prop where
  fired : x.sync.ready.fired = true → y.sync.ready.fired = true
  done : x.leaving.isDone = true → y.leaving.isDone = true ∧ y.sync.readies = x.sync.readies

/-- What any number of steps keeps. -/
theorem Aware.run (h : x.Aware history) (hr : Run x items y) :
    y.Aware (history ++ items) ∧ x.Lasts y := by
  induction hr with
  | refl =>
    rw [List.append_nil]
    exact ⟨h, id, fun hd => ⟨hd, rfl⟩⟩
  | step _ hs ih =>
    obtain ⟨hy, hlasts⟩ := ih
    obtain ⟨hz, hrings⟩ := hy.step hs
    rw [← List.append_assoc]
    refine ⟨hz, ?_, ?_⟩
    · intro hf
      rw [hrings.fired, hlasts.fired hf, Bool.true_or]
    · intro hd
      obtain ⟨hdone, hreadies⟩ := hlasts.done hd
      refine ⟨hrings.done hdone, ?_⟩
      rw [hrings.readies, isFirstSign, hdone]
      exact hreadies

end Underway

/-- No task of it asks for toggles or says that there are any, and no one has said so. -/
structure Machine.Blank (m : Machine) : Prop where
  tasks : m.tasks.Only (fun j => j ≠ .fetch ∧ j ≠ .announce) fun _ => False
  ready : m.state.ready = .new
  readies : m.state.readies = 0
  announced : m.state.isAnnounced = false

namespace Underway

theorem aware_starting {m : Machine} (hm : m.Blank) (o : Coordinator.Options) (mode : Mode) :
    (starting m o mode).Aware [] := by
  have htacit : m.tasks.Guarded IsTacit := hm.tasks.guarded fun _ _ hj => hj.2
  have hcalm := (Coordinator.worked_begin
    ⟨m.withPolling o.interval o.eager, none, false, o.synchronous, 1000⟩ mode true).calm
  have hready : (starting m o mode).sync.ready = .new := hcalm.rang.ready.trans hm.ready
  have hreadies : (starting m o mode).sync.readies = 0 := hcalm.rang.readies.trans hm.readies
  have hannounced : (starting m o mode).sync.isAnnounced = (false || false) :=
    hcalm.heeds.announced.trans (congrArg (· || false) hm.announced)
  refine ⟨guarded_starting o mode htacit nofun, ?_, hannounced, ?_, ?_⟩
  · rw [hready]
    rfl
  · rw [hready, hreadies]
    rfl
  · rw [hready]
    exact fun _ => rfl

/-- Whatever calls of a coordinator are under way. That a client is ready is told of once at most.
Until the disposal has stopped everything it is ready if there was a sign of toggles: a cycle that
has heard an answer without a state that was refused, or an accepted state on the stream. It becomes
ready, and that is told of, in the very step in which the first sign comes; it stays ready; and
after the disposal has stopped everything nothing is told of any more. -/
theorem readiness_begins_with_the_first_sign_before_disposal {m : Machine} (hm : m.Blank)
    {o : Coordinator.Options} {mode : Mode} (hx : Run (starting m o mode) history x) :
    x.sync.readies = x.sync.ready.fired.toNat ∧
      (x.leaving.isDone = false → x.sync.ready.fired = history.any (·.welcomes)) ∧
      (∀ {items : List Happening} {y : Underway}, Step x items y → x.Rings history items y) ∧
      ∀ {later : List Happening} {y : Underway}, Run x later y → x.Lasts y := by
  have h := ((aware_starting hm o mode).run hx).1
  rw [List.nil_append] at h
  exact ⟨h.readies, h.fired, fun hs => (h.step hs).2, fun hr => (h.run hr).2⟩

/-! ### A first answer -/

/-- A client whose server always answers that nothing has changed. -/
def unchanging : Machine := .new (.new (.new [] none) none false .standard .nowhere)

/-- Its coordinator while it waits for the first answer. -/
def expectant : Underway :=
  let c := (starting unchanging ⟨60, true, true⟩ .polling).coordinator
  let asked := (c.proceed (.closing true)).1.proceed (.closed true)
  ⟨asked.1, asked.2, .staying⟩

theorem a_client_is_ready_at_its_first_answer :
    unchanging.Blank ∧ Run (starting unchanging ⟨60, true, true⟩ .polling) [] expectant ∧
      expectant.sync.ready.fired = false ∧
      ∃ y, Step expectant [.asked ⟨none, false⟩ (.ok .unchanged)] y ∧
        y.sync.ready.fired = true ∧ y.sync.readies = 1 := by
  have hblank : unchanging.Blank := ⟨Tasks.only_empty, rfl, rfl, rfl⟩
  have hasked : Run (starting unchanging ⟨60, true, true⟩ .polling) [] expectant :=
    ((Run.refl _).step (.proceed rfl)).step (.proceed rfl)
  have hanswer := Step.answer (rfl : expectant.change =
    some (.fetching true ⟨⟨none, false⟩, .ok .unchanged⟩))
  obtain ⟨_, _, hrings, _⟩ := readiness_begins_with_the_first_sign_before_disposal hblank hasked
  have hfirst := hrings hanswer
  exact ⟨hblank, hasked, rfl, _, hanswer, hfirst.fired.trans rfl, hfirst.readies.trans rfl⟩

end Underway

/-- A client starts on a machine that knows of no toggles. -/
theorem Client.blank_base (s : Settings) (p : Parts) (i : Identity) :
    (Machine.base (begun s p) s.metricsInterval i).Blank := by
  have honly := Machine.only_base (begun s p) s.metricsInterval i
  obtain ⟨t, tag, hcalm, heq⟩ :=
    (Sync.new p.backend none s.mustSucceedFirst s.failover p.keeping).calm_restore 0
  have hbegun : begun s p = { t with polling := .new tag } := heq
  have hready : (begun s p).ready = .new := by
    rw [hbegun]
    exact hcalm.rang.ready
  have hreadies : (begun s p).readies = 0 := by
    rw [hbegun]
    exact hcalm.rang.readies
  have hannounced : (begun s p).isAnnounced = false := by
    rw [hbegun]
    exact hcalm.announced
  refine ⟨honly, ?_, ?_, ?_⟩ <;> rw [Machine.state_base] <;> assumption

end ToggleSync
