-- The tag that a client begins with. The first question to the server carries the tag of the pair
-- of files that was found, if the engine took the state beside it. A pair with an empty state is
-- not given to the engine at all, and yet its tag is sent, so that the server may answer a client
-- that has no toggles that nothing has changed.
import ToggleSync.Proofs.Readiness
import ToggleSync.Proofs.RestoredState

namespace ToggleSync

/-! ## The pair of files -/

namespace Backup

/-- What is in a file that can be read. -/
def Disk.text? (d : Disk) (path : String) : Option String := (d.read path).toOption

/-- Each file of the layouts can be read, or it is missing. -/
def Disk.IsLegible (d : Disk) (l : Location) : Prop :=
  ∀ slot f, d.read (l.path slot) = .error f → f.isMissing = true

/-- The texts of two files, if both are there. -/
def bothTexts (text : Slot → Option String) (stateSlot tagSlot : Slot) :
    Option (String × String) := do
  let state ← text stateSlot
  let tag ← text tagSlot
  return (state, tag)

/-- The state and the tag that were stored together: those of the present layout if both are there,
and else those of the earlier one. -/
def storedPair (text : Slot → Option String) : Option (String × String) :=
  (bothTexts text .state .tag).or (bothTexts text .legacyState .legacyTag)

/-- A pair of texts as a backup. -/
def ofTexts (pair : String × String) : Backup := ⟨pair.1, tagOfText pair.2⟩

theorem readPair_of_legible {read : Slot → Except IoFailure String}
    (h : ∀ slot f, read slot = .error f → f.isMissing = true) (a b : Slot) :
    (readPair read a b).result =
      .ok ((bothTexts (fun slot => (read slot).toOption) a b).map ofTexts) := by
  unfold readPair bothTexts
  cases ha : read a with
  | error f => simp [ha, h a f ha, Except.toOption]
  | ok state =>
    cases hb : read b with
    | error f => simp [ha, hb, h b f hb, Except.toOption]
    | ok tag => simp [ha, hb, Except.toOption, ofTexts]

theorem readFiles_of_legible (read : Slot → Except IoFailure String)
    (h : ∀ slot f, read slot = .error f → f.isMissing = true) :
    (readFiles read).result =
      .ok ((storedPair fun slot => (read slot).toOption).map ofTexts) := by
  have hpresent := readPair_of_legible h .state .tag
  have hearlier := readPair_of_legible h .legacyState .legacyTag
  unfold readFiles storedPair
  generalize readPair read .state .tag = present at hpresent
  obtain ⟨slots, result⟩ := present
  simp only at hpresent
  subst hpresent
  cases bothTexts (fun slot => (read slot).toOption) .state .tag with
  | none => simpa using hearlier
  | some pair => rfl

/-- Without a state from the application, a legible disk gives the pair that it holds. -/
theorem load_of_legible {store : Store} {disk : Disk} (hb : store.bootstrap = none)
    (hd : disk.IsLegible store.location) :
    (store.load fun slot => disk.read (store.location.path slot)).result =
      .ok (((storedPair fun slot => disk.text? (store.location.path slot)).map ofTexts).getD
        .empty) := by
  have hread := readFiles_of_legible (fun slot => disk.read (store.location.path slot)) hd
  unfold Store.load
  simp only [hread]
  simp [Except.bind, Store.choose, hb, Disk.text?]

end Backup

/-- The tag that polling begins with, over a pair of files. -/
def restoredTag : Option (String × String) → Option String
  | none => none
  | some (state, tag) =>
    if state.isEmpty || isReadable state then Backup.tagOfText tag else none

theorem restoredTag_eq_some {pair : Option (String × String)} {sent : String}
    (h : restoredTag pair = some sent) :
    ∃ state tag, pair = some (state, tag) ∧ Backup.tagOfText tag = some sent ∧
      (state = "" ∨ isReadable state = true) := by
  unfold restoredTag at h
  split at h
  · cases h
  · rename_i state tag
    split at h
    · rename_i hr
      exact ⟨state, tag, rfl, h, by simpa using hr⟩
    · cases h

/-- Nothing is read from an empty state. -/
theorem isReadable_empty : isReadable "" = false := by decide

namespace Sync

theorem loadBackup_of_legible {s : Sync} {store : Backup.Store} {disk : Backup.Disk}
    (hk : s.keeping = .files store disk) (hb : store.bootstrap = none)
    (hd : disk.IsLegible store.location) (now : Nat) :
    (s.loadBackup now).2 =
      ((Backup.storedPair fun slot => disk.text? (store.location.path slot)).map
        Backup.ofTexts).getD .empty := by
  unfold loadBackup
  simp only [hk, Backup.load_of_legible hb hd]

end Sync

namespace Client

/-- What comes of a backup that was loaded. Only one whose state is not empty is given to the
engine. -/
theorem restore_of_load {s : Sync} {now : Nat} {b : Backup} (h : (s.loadBackup now).2 = b) :
    (restore s now).polling =
        .new (if b.state.isEmpty || isReadable b.state then b.tag else none) ∧
      ∀ e, b.state.isEmpty = false → s.engine.takeState b.state = .ok e →
        (restore s now).engine = e := by
  have hengine := (s.sameParts_loadBackup now).engine
  unfold restore
  generalize s.loadBackup now = loaded at h hengine
  obtain ⟨t, b'⟩ := loaded
  simp only at h hengine
  subst h
  rw [← hengine]
  by_cases hempty : b'.state.isEmpty = true
  · simp [Backup.isEmpty, hempty]
  · rw [Bool.not_eq_true] at hempty
    cases hr : isReadable b'.state with
    | true => simp [Backup.isEmpty, hempty, takeState_of_readable t.engine hr]
    | false =>
      obtain ⟨x, hx⟩ := takeState_of_unreadable t.engine hr
      simp [Backup.isEmpty, hempty, hx]

/-- What comes of the pair of files that was found. -/
theorem restore_of_pair {s : Sync} {now : Nat} {pair : Option (String × String)}
    (h : (s.loadBackup now).2 = (pair.map Backup.ofTexts).getD .empty) :
    (restore s now).polling.tag = restoredTag pair ∧
      ∀ state tag e, pair = some (state, tag) → state ≠ "" → s.engine.takeState state = .ok e →
        (restore s now).engine = e := by
  cases pair with
  | none =>
    have hnone := restore_of_load (b := .empty) h
    exact ⟨congrArg Polling.tag hnone.1, nofun⟩
  | some found =>
    obtain ⟨state, tag⟩ := found
    obtain ⟨hpolling, hengine⟩ := restore_of_load (b := ⟨state, Backup.tagOfText tag⟩) h
    refine ⟨?_, ?_⟩
    · rw [hpolling]
      unfold restoredTag
      simp only
      split
      · exact Backup.tag_new_tagOfText tag
      · rfl
    · rintro _ _ e hsame hne htake
      cases hsame
      exact hengine e (by simpa using hne) htake

end Client

/-! ## What is asked -/

namespace Sync

/-- The first question was sent, and it carried the tag. -/
def HasSent (tag : Option String) (s : Sync) : Prop :=
  ∃ q rest, s.seen .questions = q :: rest ∧ q.tag = tag

theorem HasSent.of_more {tag : Option String} {s s' : Sync} (h : s.HasSent tag)
    {more : List Polling.Question} (hm : s'.seen .questions = s.seen .questions ++ more) :
    s'.HasSent tag := by
  obtain ⟨q, rest, hs, hq⟩ := h
  exact ⟨q, rest ++ more, by rw [hm, hs]; rfl, hq⟩

theorem HasSent.of_same {tag : Option String} {s s' : Sync} (h : s.HasSent tag)
    (hm : s'.seen .questions = s.seen .questions) : s'.HasSent tag := by
  obtain ⟨q, rest, hs, hq⟩ := h
  exact ⟨q, rest, hm.trans hs, hq⟩

/-- Between two states of a client nothing was asked, and polling is as it was. -/
structure Unasked (s s' : Sync) : Prop where
  polling : s'.polling = s.polling
  questions : s'.seen .questions = s.seen .questions

variable {s t u : Sync}

theorem Unasked.refl (s : Sync) : Unasked s s := ⟨rfl, rfl⟩

theorem Unasked.trans (h : Unasked s t) (h' : Unasked t u) : Unasked s u :=
  ⟨h'.polling.trans h.polling, h'.questions.trans h.questions⟩

theorem unasked_of_log (hp : t.polling = s.polling) (hl : t.log = s.log) : Unasked s t :=
  ⟨hp, seen_of_log hl _⟩

theorem unasked_note (s : Sync) (now : Nat) {e : Entry} (h : View.questions.see e = none) :
    Unasked s (s.note now e) := by
  refine ⟨rfl, ?_⟩
  rw [seen_note, h]
  exact List.append_nil _

theorem unasked_performAll (now : Nat) (es : List Effect) (s : Sync) :
    Unasked s (es.foldl (perform now) s) := by
  refine ⟨(sameParts_performAll now es s).polling, ?_⟩
  rw [seen_performAll, View.questions_shows, List.append_nil]

theorem unasked_stopStream (s : Sync) (now : Nat) : Unasked s (s.stopStream now) := by
  refine ⟨rfl, ?_⟩
  unfold stopStream
  rw [seen_note]
  exact List.append_nil _

theorem unasked_startStream (s : Sync) (now : Nat) : Unasked s (s.startStream now).1 := by
  unfold startStream
  split
  · exact ((unasked_note s now rfl).trans (unasked_note _ now rfl)).trans (unasked_of_log rfl rfl)
  · refine ⟨rfl, ?_⟩
    rw [seen_note]
    exact List.append_nil _

theorem unasked_report (s : Sync) (now : Nat) (i : Identity) : Unasked s (s.report now i) := by
  unfold report
  generalize s.engine.takeUsage s.calendar = taken
  obtain ⟨usage, engine⟩ := taken
  have hengine : Unasked s { s with engine } := unasked_of_log rfl rfl
  cases usage with
  | none => exact hengine
  | some bucket => exact hengine.trans (unasked_note _ now rfl)

theorem unasked_listen (s : Sync) (x : StreamCall) : Unasked s (s.listen x).1 := by
  rw [listen_eq]
  have hall := unasked_performAll x.tick (s.streaming.takes s.engine s.rules x).effects
    { s with
      calendar := x.time
      streaming := (s.streaming.takes s.engine s.rules x).streaming
      engine := (s.streaming.takes s.engine s.rules x).engine }
  exact ⟨hall.polling, hall.questions⟩

/-- The end of a cycle is no question. -/
theorem questions_conclude (s : Sync) (now : Nat) (q : Polling.Question)
    (outcome : Except Failure Fetched) :
    (s.conclude now q outcome).1.seen .questions = s.seen .questions := by
  rw [(s.concluded now q outcome).seen, View.questions_shows, List.append_nil]

/-- A question carries the tag that polling holds. -/
theorem questions_ask (s : Sync) (now : Nat) :
    (s.ask now).1.seen .questions = s.seen .questions ++ [s.question] := by
  rw [seen_ask]
  rfl

/-- To begin with a backup is to ask nothing. -/
theorem questions_restore (s : Sync) (now : Nat) :
    (Client.restore s now).seen .questions = s.seen .questions := by
  have hskip : ∀ {t u : Sync}, Unasked t u → t.seen .questions = s.seen .questions →
      u.seen .questions = s.seen .questions := fun hu ht => hu.questions.trans ht
  exact Client.along_restore (fun t _ => hskip (unasked_note t now rfl))
    (fun t _ => hskip (unasked_note t now rfl)) (fun _ _ _ ht => ht) rfl

end Sync

namespace Machine

variable {m m' : Machine} {i : Nat} {l : Loop Job Asked} {v : Move} {tag : Option String}

/-- The question that a move of a loop sends, if it begins a cycle. -/
def asks? (m : Machine) (l : Loop Job Asked) : Move → Option Polling.Question
  | .begin =>
    match l.task.job with
    | .fetch => some m.state.question
    | _ => none
  | _ => none

theorem asks?_eq_some {q : Polling.Question} (h : m.asks? l v = some q) : q = m.state.question := by
  unfold asks? at h
  split at h
  · split at h
    · exact (Option.some.inj h).symm
    · cases h
  · cases h

theorem questions_move (hm : m.CanMove i l v) :
    (m.move Sync.behaviour i v).state.seen .questions =
      m.state.seen .questions ++ (m.asks? l v).toList := by
  unfold Clockwork.move asks?
  rw [hm.loop]
  cases v with
  | rest due => exact (List.append_nil _).symm
  | leave => exact (List.append_nil _).symm
  | begin =>
    simp only [Clockwork.beginRun]
    cases l.task.job with
    | fetch =>
      by_cases ht : m.state.backend.next.1.ticks = 0
      · simp only [Sync.begin_fetch_eq_cycle _ _ ht]
        exact Sync.questions_cycle _ _
      · simp only [Sync.begin_fetch_of_wait _ _ ht]
        exact Sync.questions_ask _ _
    | register r => exact Sync.seen_note _ _ _ _
    | report r =>
      exact (m.state.unasked_report m.now r).questions.trans (List.append_nil _).symm
    | announce => exact (Sync.seen_fireReady _ _ _).trans (List.append_nil _).symm
  | finish cancelled =>
    simp only [Clockwork.finishRun]
    cases l.phase with
    | running due stubborn asked =>
      exact (Sync.questions_conclude _ _ _ _).trans (List.append_nil _).symm
    | queued => exact (List.append_nil _).symm
    | resting due => exact (List.append_nil _).symm
    | ended => exact (List.append_nil _).symm

/-- While no answer is waited for, a move that sends no question leaves polling as it is. -/
theorem polling_move (h : m.tasks.Only (fun _ => True) fun _ => False) (hm : m.CanMove i l v)
    (ha : m.asks? l v = none) :
    (m.move Sync.behaviour i v).state.polling = m.state.polling ∧
      (m.move Sync.behaviour i v).tasks.Only (fun _ => True) fun _ => False := by
  have hset : ∀ phase : Phase Asked, (∀ due stubborn asked, phase ≠ .running due stubborn asked) →
      (m.tasks.setPhase i phase).Only (fun _ => True) fun _ => False :=
    fun _ hp => h.setPhase i hp
  have hafter := hset _ (Tasks.afterRun_ne_running l.task m.now)
  unfold asks? at ha
  unfold Clockwork.move
  rw [hm.loop]
  cases v with
  | rest due => exact ⟨rfl, hset _ nofun⟩
  | leave => exact ⟨rfl, hset _ nofun⟩
  | begin =>
    simp only [Clockwork.beginRun]
    cases hj : l.task.job with
    | fetch => simp [hj] at ha
    | register r => exact ⟨rfl, hafter⟩
    | report r => exact ⟨(m.state.unasked_report m.now r).polling, hafter⟩
    | announce => exact ⟨(Sync.sameParts_fireReady _ _).polling, hafter⟩
  | finish cancelled =>
    simp only [Clockwork.finishRun]
    cases hp : l.phase with
    | running due stubborn asked =>
      exact ((h.loops l (List.mem_of_getElem? hm.loop)).2 due stubborn asked hp).elim
    | queued => exact ⟨rfl, h⟩
    | resting due => exact ⟨rfl, h⟩
    | ended => exact ⟨rfl, h⟩

/-- The first question carried the tag, or else nothing was asked yet, no answer is waited for, and
polling holds the tag. -/
def Begins (tag : Option String) (m : Machine) : Prop :=
  m.state.HasSent tag ∨ (m.state.seen .questions = [] ∧ m.state.polling.tag = tag ∧
    m.tasks.Only (fun _ => True) fun _ => False)

/-- What asks nothing, leaves polling and makes no run wait keeps this. -/
theorem Begins.unasked (h : m.Begins tag) (hs : m.state.Unasked m'.state)
    (ho : m.tasks.Only (fun _ => True) (fun _ => False) →
      m'.tasks.Only (fun _ => True) fun _ => False) : m'.Begins tag := by
  rcases h with hsent | ⟨hnone, htag, honly⟩
  · exact .inl (hsent.of_same hs.questions)
  · exact .inr ⟨hs.questions.trans hnone, (congrArg Polling.tag hs.polling).trans htag, ho honly⟩

theorem Begins.asks (h : m.Begins tag) : ((m.state.ask m.now).1).HasSent tag := by
  have hq := m.state.questions_ask m.now
  rcases h with hsent | ⟨hnone, htag, _⟩
  · exact hsent.of_more hq
  · refine ⟨m.state.question, [], ?_, htag⟩
    rw [hq, hnone]
    rfl

theorem Begins.move (h : m.Begins tag) (hm : m.CanMove i l v) :
    Begins tag (m.move Sync.behaviour i v) := by
  have hq := questions_move hm
  rcases h with hsent | ⟨hnone, htag, honly⟩
  · exact .inl (hsent.of_more hq)
  · rw [hnone, List.nil_append] at hq
    cases ha : m.asks? l v with
    | some q =>
      refine .inl ⟨q, [], by rw [hq, ha]; rfl, ?_⟩
      rw [asks?_eq_some ha]
      exact htag
    | none =>
      rw [ha] at hq
      obtain ⟨hpolling, hstill⟩ := polling_move honly hm ha
      exact .inr ⟨hq, (congrArg Polling.tag hpolling).trans htag, hstill⟩

theorem Begins.stable (tag : Option String) : Clockwork.Stable Sync.behaviour (Begins tag) where
  move h hm := h.move hm
  pass h _ := h

theorem hasSent_stable (tag : Option String) :
    Clockwork.Stable Sync.behaviour fun m : Machine => m.state.HasSent tag where
  move h hm := h.of_more (questions_move hm)
  pass h _ := h

theorem Begins.runCycle (h : m.Begins tag) : Begins tag m.runCycle.1 := by
  unfold Machine.runCycle
  split
  · exact h
  · have hwaited := (hasSent_stable tag).waitUntil (fun _ => false) m.state.backend.next.1.ticks
      (c := { m with state := (m.state.ask m.now).1 }) h.asks
    exact .inl (hwaited.of_same (Sync.questions_conclude _ _ _ _))

end Machine

namespace Coordinator

variable {c : Coordinator} {tag : Option String}

theorem unasked_enter (c : Coordinator) (mode : Mode) (initial : Bool) :
    c.sync.Unasked (c.enter mode initial).sync := by
  cases initial with
  | true => exact .refl _
  | false => exact c.sync.unasked_note c.machine.now rfl

theorem unasked_enterPolling (c : Coordinator) (initial : Bool) :
    (c.machine.stopStream.afterFirst (initial && c.synchronous)).state.Unasked
      (c.enterPolling initial).1.sync := by
  have hstart := c.machine.stopStream.state_startPolling (initial && c.synchronous)
  unfold enterPolling
  generalize c.machine.stopStream.startPolling (initial && c.synchronous) = started at hstart
  obtain ⟨machine, result⟩ := started
  rw [← hstart]
  cases result with
  | error f => exact .refl _
  | ok u => exact unasked_enter { c with machine } .polling initial

theorem unasked_enterStreaming (c : Coordinator) (initial : Bool) :
    c.sync.Unasked (c.enterStreaming initial).1.sync := by
  have hstop := c.machine.state_stopPolling
  unfold enterStreaming
  simp only
  generalize c.machine.stopPolling = stopped at hstop
  obtain ⟨quiet, result⟩ := stopped
  have hsame : c.sync.Unasked quiet.state := by
    rw [hstop]
    exact .refl _
  cases result with
  | error f => exact hsame
  | ok u =>
    have hstart : c.sync.Unasked quiet.startStream.1.state :=
      hsame.trans (quiet.state.unasked_startStream quiet.now)
    simp only
    generalize quiet.startStream = started at hstart
    obtain ⟨machine, result⟩ := started
    cases result with
    | ok u => exact hstart.trans (unasked_enter { c with machine } .streaming initial)
    | error f =>
      simp only
      split
      · refine hstart.trans ?_
        rw [show Coordinator.sync _ = (machine.startPolling false).1.state from rfl,
          machine.state_startPolling false]
        exact .refl _
      · exact hstart

theorem unasked_changeMode (c : Coordinator) (mode : Mode) :
    c.sync.Unasked (c.changeMode mode).1.sync := by
  unfold changeMode activate
  split
  · exact .refl _
  · cases mode with
    | polling =>
      exact (c.sync.unasked_stopStream c.machine.now).trans (c.unasked_enterPolling false)
    | streaming => exact c.unasked_enterStreaming false

theorem begins_changeMode (h : c.machine.Begins tag) (mode : Mode) :
    (c.changeMode mode).1.machine.Begins tag :=
  h.unasked (c.unasked_changeMode mode) (c.calm_changeMode mode).machine.only

theorem unasked_release (c : Coordinator) : c.sync.Unasked c.release.sync := by
  let m : Machine := c.machine.cancel Machine.clientToken
  have hstop : c.sync.Unasked m.stopStream.stopPolling.1.state := by
    rw [m.stopStream.state_stopPolling]
    exact c.sync.unasked_stopStream c.machine.now
  exact hstop.trans (Sync.unasked_of_log rfl rfl)

theorem begins_dispose (h : c.machine.Begins tag) : c.dispose.1.machine.Begins tag := by
  unfold dispose
  split
  · exact h
  · let disarmed := c.release.update fun s => { s with ready := s.ready.disarm }
    have hdisarmed : disarmed.machine.Begins tag :=
      h.unasked (c.unasked_release.trans (Sync.unasked_of_log rfl rfl)) c.calm_release.only
    refine (Machine.Begins.stable tag).shutdown ?_ ?_ c.release.shutdownTicks hdisarmed
    · exact fun hb => hb.unasked (.refl _) Tasks.Only.close
    · exact fun i hb => hb.unasked (.refl _) fun ho => ho.setPhase i nofun

theorem begins_start {m : Machine} (h : m.Begins tag) (o : Options) (mode : Mode) :
    (start m o mode).1.machine.Begins tag := by
  let c : Coordinator :=
    ⟨m.withPolling o.interval o.eager, none, false, o.synchronous, 1000⟩
  have hset : c.machine.Begins tag :=
    h.unasked (.refl _) fun ho => ho.configure trivial Machine.clientToken
  have hactivated : (c.activate mode true).1.machine.Begins tag := by
    unfold activate
    rw [if_neg (by simp [c])]
    cases mode with
    | polling =>
      have hstopped : c.machine.stopStream.Begins tag :=
        hset.unasked (c.sync.unasked_stopStream c.machine.now) c.machine.calm_stopStream.only
      have hfirst : (c.machine.stopStream.afterFirst (true && c.synchronous)).Begins tag := by
        unfold Machine.afterFirst
        split
        · exact hstopped.runCycle
        · exact hstopped
      exact hfirst.unasked (c.unasked_enterPolling true) (c.calm_enterPolling true).1.only
    | streaming =>
      exact hset.unasked (c.unasked_enterStreaming true) (c.calm_enterStreaming true).machine.only
  unfold start
  simp only
  split
  · rename_i c' u hact
    rwa [show (c.activate mode true).1 = c' from congrArg Prod.fst hact] at hactivated
  · rename_i c' f hact
    rw [show (c.activate mode true).1 = c' from congrArg Prod.fst hact] at hactivated
    exact begins_dispose hactivated

end Coordinator

/-! ## Clients -/

namespace Client

theorem unasked_tell (c : Client) (kind : ImpressionKind) (toggle : String) (enabled : Bool)
    (variant : Option String) (context : Context) :
    c.sync.Unasked (c.tell kind toggle enabled variant context).sync := by
  unfold tell
  split
  · exact c.sync.unasked_note c.now rfl
  · exact .refl _

theorem unasked_isEnabled (c : Client) (name : String) (context : Context) (default : Bool) :
    c.sync.Unasked (c.isEnabled name context default).1.sync := by
  unfold isEnabled
  generalize c.sync.engine.isEnabled name = asked
  obtain ⟨outcome, engine⟩ := asked
  have hengine : c.sync.Unasked (c.update ({ · with engine })).sync := Sync.unasked_of_log rfl rfl
  cases outcome with
  | none => exact hengine
  | some o =>
    simp only
    split
    · exact hengine.trans (unasked_tell _ _ _ _ _ _)
    · exact hengine

theorem unasked_variant (c : Client) (name : String) (context : Context) (default : Variant)
    (spare : String) : c.sync.Unasked (c.variant name context default spare).1.sync := by
  unfold variant
  simp only
  generalize c.sync.engine.variant name (c.contextFor context) spare = asked
  obtain ⟨given, engine⟩ := asked
  have hengine : c.sync.Unasked (c.update ({ · with engine })).sync := Sync.unasked_of_log rfl rfl
  cases given with
  | none => exact hengine
  | some v =>
    simp only
    split
    · exact hengine.trans (unasked_tell _ _ _ _ _ _)
    · exact hengine

/-- What one step keeps. -/
theorem begins_step {c c' : Client} {more : List Happening} {tag : Option String}
    (h : c.coordinator.machine.Begins tag) (hs : Step c more c') :
    c'.coordinator.machine.Begins tag := by
  cases hs with
  | move hm => exact h.move hm
  | pass _ => exact h
  | change mode => exact Coordinator.begins_changeMode h mode
  | takeRequests => exact h.unasked (Sync.unasked_of_log rfl rfl) id
  | call x => exact h.unasked (c.sync.unasked_listen x) id
  | server answers startFailure ha => exact h.unasked (Sync.unasked_of_log rfl rfl) id
  | enabled name context default =>
    exact h.unasked (c.unasked_isEnabled name context default)
      (c.calm_isEnabled name context default).machine.only
  | variant name context default spare =>
    exact h.unasked (c.unasked_variant name context default spare)
      (c.calm_variant name context default spare).machine.only
  | close =>
    unfold Client.close
    split
    · exact h
    · exact Coordinator.begins_dispose h

/-- Whatever a client has lived through, its first question carries the tag that it began with. -/
theorem begins_lived {s : Settings} {i : Identity} {p : Parts} {c : Client}
    {history : List Happening} (h : Lived s i p c history) :
    c.coordinator.machine.Begins (begun s p).polling.tag := by
  induction h with
  | built hb =>
    obtain ⟨rfl, -⟩ := Prod.ext_iff.mp (start_of_build hb)
    have hstate := Machine.state_base (begun s p) s.metricsInterval i
    have honly := Machine.only_base (begun s p) s.metricsInterval i
    refine Coordinator.begins_start (.inr ⟨?_, ?_, ?_⟩) _ _
    · exact (Sync.seen_of_log (congrArg Sync.log hstate) _).trans (Sync.questions_restore _ 0)
    · exact congrArg (·.polling.tag) hstate
    · exact honly.mono (fun _ _ => trivial) fun _ => id
  | step _ hs ih => exact begins_step ih hs

/-! ### The law -/

/-- Whatever a client over files has lived through, where no file fails to be read and there is no
state from the application. Its first question carries the tag of the pair of files that was found,
if the state beside it was taken or is empty, and else none. So it carries a tag only of a state
that the engine took, exactly if the state of the pair is not empty or its tag is blank. -/
theorem the_first_question_carries_the_tag_of_a_state_that_was_taken_or_is_empty
    {s : Settings} {i : Identity} {p : Parts} {c : Client} {history : List Happening}
    (h : Lived s i p c history) {store : Backup.Store} {disk : Backup.Disk}
    (hk : p.keeping = .files store disk) (hb : store.bootstrap = none)
    (hd : disk.IsLegible store.location) {q : Polling.Question}
    (hq : (c.sync.seen .questions).head? = some q) :
    let pair := Backup.storedPair fun slot => disk.text? (store.location.path slot)
    q.tag = restoredTag pair ∧
      ((∀ sent, q.tag = some sent → ∃ state tag e, pair = some (state, tag) ∧
          Backup.tagOfText tag = some sent ∧ (Engine.new .epoch).takeState state = .ok e ∧
          (begun s p).engine = e) ↔
        ∀ tag, pair = some ("", tag) → Backup.tagOfText tag = none) := by
  intro pair
  let fresh := Sync.new p.backend none s.mustSucceedFirst s.failover p.keeping
  have hload := Sync.loadBackup_of_legible (s := fresh) hk hb hd 0
  obtain ⟨hbegun, htaken⟩ := restore_of_pair hload
  have htag : q.tag = restoredTag pair := by
    rcases begins_lived h with ⟨q', rest, hseen, hsent⟩ | ⟨hnone, _⟩
    · rw [show c.sync.seen .questions = q' :: rest from hseen] at hq
      cases hq
      exact hsent.trans hbegun
    · rw [show c.sync.seen .questions = [] from hnone] at hq
      cases hq
  refine ⟨htag, ?_⟩
  rw [htag]
  constructor
  · intro hall tag hp
    by_contra hsome
    obtain ⟨sent, hs⟩ := Option.ne_none_iff_exists'.mp hsome
    obtain ⟨state, tag', e, hp', _, htake, _⟩ := hall sent (by rw [hp]; exact hs)
    obtain ⟨rfl, rfl⟩ : "" = state ∧ tag = tag' := by simpa using hp.symm.trans hp'
    obtain ⟨x, hx⟩ := takeState_of_unreadable (Engine.new .epoch) isReadable_empty
    rw [hx] at htake
    cases htake
  · intro hempty sent hs
    obtain ⟨state, tag, hp, htext, hread⟩ := restoredTag_eq_some hs
    have hne : state ≠ "" := by
      rintro rfl
      exact absurd (htext.symm.trans (hempty tag hp)) nofun
    have hr : isReadable state = true := hread.resolve_left hne
    have htake := takeState_of_readable (Engine.new .epoch) hr
    exact ⟨state, tag, _, hp, htext, htake, htaken state tag _ hp hne htake⟩

/-! ### Files that are there -/

/-- The files of a store in a directory of its own. -/
def shelf : Backup.Store := ⟨⟨"state", "tag", "old/state", "old/tag"⟩, none, false⟩

/-- A disk with these files, which reads and writes without failures. -/
def diskOf (files : List (String × String)) : Backup.Disk :=
  ⟨files.foldl (fun t f => t.put f.1 f.2) ∅, ∅, ∅⟩

theorem isLegible_diskOf (files : List (String × String)) (l : Backup.Location) :
    (diskOf files).IsLegible l := by
  intro slot f h
  have hnone : (diskOf files).readFailures.get? (l.path slot) = none := rfl
  unfold Backup.Disk.read at h
  rw [hnone] at h
  simp only at h
  split at h
  · cases h
  · cases h
    rfl

/-- Parts over these files, with a server that always says that nothing has changed. -/
def filed (files : List (String × String)) : Parts where
  backend := .new [] none
  keeping := .files shelf (diskOf files)
  hasListener := false

/-- The earlier layout holds a pair, and of the present one the tag is missing. -/
def earlierPair : List (String × String) :=
  [("state", "\x7b\"version\":9,\"features\":[]\x7d"),
    ("old/state", "\x7b\"version\":2,\"features\":[]\x7d"), ("old/tag", " v1\n")]

theorem the_first_question_carries_the_tag_of_the_earlier_layout :
    let c := (start (prompt false) promptIdentity (filed earlierPair)).1
    Lived (prompt false) promptIdentity (filed earlierPair) c
        (opening (prompt false) (filed earlierPair)) ∧
      (filed earlierPair).keeping = .files shelf (diskOf earlierPair) ∧
      shelf.bootstrap = none ∧ (diskOf earlierPair).IsLegible shelf.location ∧
      (c.sync.seen .questions).head? = some ⟨some "v1", false⟩ ∧
      ∃ e, (Engine.new .epoch).takeState "\x7b\"version\":2,\"features\":[]\x7d" = .ok e ∧
        (begun (prompt false) (filed earlierPair)).engine = e := by
  intro c
  have hl := lived_of_prompt false (filed earlierPair)
  have hd := isLegible_diskOf earlierPair shelf.location
  have hq : (c.sync.seen .questions).head? = some ⟨some "v1", false⟩ := by decide +kernel
  have hpair : Backup.storedPair (fun slot =>
      (diskOf earlierPair).text? (shelf.location.path slot)) =
      some ("\x7b\"version\":2,\"features\":[]\x7d", " v1\n") := by decide +kernel
  obtain ⟨_, hiff⟩ :=
    the_first_question_carries_the_tag_of_a_state_that_was_taken_or_is_empty hl rfl rfl hd hq
  have hfull : ∀ tag, Backup.storedPair (fun slot =>
      (diskOf earlierPair).text? (shelf.location.path slot)) = some ("", tag) →
      Backup.tagOfText tag = none := by
    rw [hpair]
    rintro tag htag
    simp at htag
  obtain ⟨state, tag, e, hp, _, htake, hengine⟩ := hiff.mpr hfull "v1" rfl
  cases hpair.symm.trans hp
  exact ⟨hl, rfl, rfl, hd, hq, e, htake, hengine⟩

/-- The state file is empty and the tag file is not. The client has no toggles, and yet its first
question carries the tag. -/
theorem a_tag_beside_an_empty_state_is_sent :
    let files := [("state", ""), ("tag", "v1")]
    let c := (start (prompt false) promptIdentity (filed files)).1
    Lived (prompt false) promptIdentity (filed files) c (opening (prompt false) (filed files)) ∧
      (begun (prompt false) (filed files)).engine.snapshot = .empty ∧
      (Engine.new .epoch).takeState "" = .error .empty ∧
      (c.sync.seen .questions).head? = some ⟨some "v1", false⟩ ∧
      c.sync.engine.snapshot = .empty := by
  intro files c
  exact ⟨lived_of_prompt false (filed files), by decide +kernel, by decide +kernel,
    by decide +kernel, by decide +kernel⟩

end Client

end ToggleSync
