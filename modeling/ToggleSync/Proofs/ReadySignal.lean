-- What the operations on a client do to its ready signal. Only the word that there are toggles
-- fires it, and the first time that this is said while the signal is armed is told of. Everything
-- else leaves the signal alone, and what polling and streaming know of having said the word.
import ToggleSync.Proofs.ClientSteps

namespace ToggleSync

/-! ## Answers over HTTP -/

/-- A server over HTTP: whatever it will answer comes from exchanges. -/
structure Backend.IsHttp (b : Backend) : Prop where
  overHttp : b.overHttp = true
  answers : ∀ a ∈ b.answers, Http.IsExchanged a.outcome
  otherwise : Http.IsExchanged b.otherwise

theorem Backend.IsHttp.next {b : Backend} (h : b.IsHttp) :
    Http.IsExchanged b.next.1.outcome ∧ b.next.2.IsHttp := by
  unfold Backend.next
  cases ha : b.answers with
  | nil => exact ⟨h.otherwise, h⟩
  | cons a rest =>
    have hall := h.answers
    rw [ha] at hall
    exact ⟨hall a List.mem_cons_self, h.overHttp, fun x hx => hall x (List.mem_cons_of_mem a hx),
      h.otherwise⟩

/-- A request that comes to something was answered, with a success or with word that nothing has
changed. -/
theorem Http.IsExchanged.answered {outcome : Except Failure Fetched}
    (h : Http.IsExchanged outcome) {f : Fetched} (hok : outcome = .ok f) :
    ∃ r : Http.Reply, (r.isSuccess = true ∨ r.isUnchanged = true) ∧ r.fetched = .ok f := by
  obtain ⟨tag, e, rfl⟩ := h
  cases e with
  | unanswered => cases hok
  | answered r =>
    simp only [Http.Exchange.fetched] at hok
    split at hok
    · refine ⟨r, ?_, hok⟩
      cases hu : r.isUnchanged with
      | true => exact .inr rfl
      | false =>
        cases hs : r.isSuccess with
        | true => exact .inl rfl
        | false => simp [Http.Reply.fetched, hu, hs] at hok
    · cases hok

/-! ## What comes from the server -/

namespace Happening

/-- Toggles that the server holds have come: a request was answered, with a success or with word
that nothing has changed, or a state on the stream was accepted. -/
def IsHydration : Happening → Prop
  | asked _ outcome => ∃ r : Http.Reply, (r.isSuccess = true ∨ r.isUnchanged = true) ∧
      ∃ f, r.fetched = .ok f ∧ outcome = .ok f
  | streamed text => isReadable text = true

/-- A request has failed, and the failure is not handed on. -/
def IsSwallowed : Happening → Prop
  | asked q outcome => q.mustSucceed = false ∧ ∃ f, outcome = .error f ∧ f ≠ .cancelled
  | streamed _ => False

/-- Whether a client takes it for a sign that there are toggles. -/
def tells : Happening → Bool
  | asked q (.ok f) =>
    match Polling.news? q.tag f with
    | none => true
    | some (state, _) => isReadable state
  | asked _ (.error .cancelled) => false
  | asked q (.error _) => !q.mustSucceed
  | streamed text => isReadable text

theorem tells_of_swallowed {x : Happening} (h : x.IsSwallowed) : x.tells = true := by
  cases x with
  | streamed text => exact h.elim
  | asked q outcome =>
    obtain ⟨hq, f, rfl, hf⟩ := h
    cases f <;> first | exact absurd rfl hf | simp [tells, hq]

end Happening

/-! ## The signal -/

theorem Ready.canFire_fire (r : Ready) : r.fire.canFire = false := by
  obtain ⟨fired, armed⟩ := r
  cases fired <;> cases armed <;> rfl

theorem Ready.fire_of_disarmed {r : Ready} (h : r.armed = false) : r.fire = r := by
  simp [fire, canFire, h]

def Entry.isReady : Entry → Bool
  | .notice .ready => true
  | _ => false

namespace Sync

/-- How often a client has told that it is ready. -/
def readies (s : Sync) : Nat := s.log.countP (·.2.isReady)

theorem readies_note (s : Sync) (now : Nat) (e : Entry) :
    (s.note now e).readies = s.readies + e.isReady.toNat := by
  unfold readies note
  rw [List.countP_append, List.countP_singleton]
  cases e.isReady <;> rfl

/-- Between two states of a client the signal was fired, or it was left alone. -/
structure Rang (fire : Bool) (s s' : Sync) : Prop where
  ready : s'.ready = if fire then s.ready.fire else s.ready
  readies : s'.readies = s.readies + (fire && s.ready.canFire).toNat

variable {s t u : Sync} {fire later : Bool}

theorem Rang.refl (s : Sync) : Rang false s s := ⟨rfl, rfl⟩

theorem Rang.trans (h : Rang fire s t) (h' : Rang later t u) : Rang (fire || later) s u := by
  obtain ⟨hr, hn⟩ := h
  obtain ⟨hr', hn'⟩ := h'
  rw [hr] at hr' hn'
  constructor
  · rw [hr']
    cases fire <;> cases later <;> simp [Ready.fire_fire]
  · rw [hn', hn]
    cases fire <;> cases later <;> simp [Ready.canFire_fire]

/-- A signal that is not armed stays as it is, and nothing is told of. -/
theorem Rang.silent (h : Rang fire s t) (ha : s.ready.armed = false) :
    t.ready = s.ready ∧ t.readies = s.readies := by
  have hcan : s.ready.canFire = false := by simp [Ready.canFire, ha]
  refine ⟨?_, ?_⟩
  · rw [h.ready, Ready.fire_of_disarmed ha, ite_self]
  · rw [h.readies, hcan, Bool.and_false]
    rfl

/-- If it was told of once for a signal that has fired, and not at all before, this stays so. -/
theorem Rang.counted (h : Rang fire s t) (hs : s.readies = s.ready.fired.toNat) :
    t.readies = t.ready.fired.toNat := by
  rw [h.readies, h.ready, hs]
  obtain ⟨fired, armed⟩ := s.ready
  cases fire <;> cases fired <;> cases armed <;> rfl

theorem rang_note (s : Sync) (now : Nat) {e : Entry} (h : e.isReady = false) :
    Rang false s (s.note now e) := by
  refine ⟨rfl, ?_⟩
  rw [readies_note, h]
  rfl

theorem rang_of_log (hr : t.ready = s.ready) (hl : t.log = s.log) : Rang false s t := by
  refine ⟨hr, ?_⟩
  unfold readies
  rw [hl]
  rfl

theorem rang_save (s : Sync) (now : Nat) (b : Backup) : Rang false s (s.save now b) := by
  refine ⟨ready_save s now b, ?_⟩
  unfold save
  simp only [foldl_noteWrite]
  split
  · exact readies_note s now (.saved b)
  · split <;> simp [readies, note, raise, List.countP_append, Entry.isReady]

theorem rang_fireReady (s : Sync) (now : Nat) : Rang true s (s.fireReady now) := by
  refine ⟨ready_fireReady s now, ?_⟩
  unfold fireReady
  split
  · rename_i h
    rw [raise, readies_note, h]
    rfl
  · rename_i h
    rw [Bool.not_eq_true] at h
    rw [h]
    rfl

theorem rang_request (s : Sync) (mode : Mode) : Rang false s (s.request mode) := by
  unfold request
  split
  · exact rang_of_log rfl rfl
  · exact .refl s

theorem rang_perform (now : Nat) (s : Sync) {e : Effect} (h : e.isPlain = true) :
    Rang (e == .announce) s (perform now s e) := by
  cases e with
  | notice n =>
    apply rang_note
    cases n with
    | ready => cases h
    | _ => rfl
  | save b => exact rang_save s now b
  | announce => exact (rang_note s now rfl).trans (rang_fireReady _ now)
  | request mode => exact rang_request s mode

theorem rang_performAll (now : Nat) {es : List Effect} (h : es.all Effect.isPlain = true)
    (s : Sync) : Rang (es.contains .announce) s (es.foldl (perform now) s) := by
  induction es generalizing s with
  | nil => exact .refl s
  | cons e es ih =>
    rw [List.all_cons, Bool.and_eq_true] at h
    have hrang := (rang_perform now s h.1).trans (ih h.2 (perform now s e))
    rwa [List.contains_cons, Bool.beq_comm]

/-! ## What has nothing to do with the signal -/

/-- Neither the signal nor anything that guards it differs between two states of a client. -/
structure Calm (s s' : Sync) : Prop where
  rang : Rang false s s'
  mustSucceedFirst : s'.mustSucceedFirst = s.mustSucceedFirst
  polling : s'.polling = s.polling
  announced : s'.streaming.announced = s.streaming.announced
  isHttp : s.backend.IsHttp → s'.backend.IsHttp

theorem Calm.refl (s : Sync) : Calm s s := ⟨.refl s, rfl, rfl, rfl, id⟩

theorem Calm.trans (h : Calm s t) (h' : Calm t u) : Calm s u where
  rang := h.rang.trans h'.rang
  mustSucceedFirst := h'.mustSucceedFirst.trans h.mustSucceedFirst
  polling := h'.polling.trans h.polling
  announced := h'.announced.trans h.announced
  isHttp hb := h'.isHttp (h.isHttp hb)

theorem calm_note (s : Sync) (now : Nat) {e : Entry} (h : e.isReady = false) :
    Calm s (s.note now e) := ⟨rang_note s now h, rfl, rfl, rfl, id⟩

theorem calm_raise (s : Sync) (now : Nat) {n : Notice} (h : (Entry.notice n).isReady = false) :
    Calm s (s.raise now n) := calm_note s now h

theorem calm_engine (s : Sync) (engine : Engine) : Calm s { s with engine } :=
  ⟨rang_of_log rfl rfl, rfl, rfl, rfl, id⟩

theorem calm_stopStream (s : Sync) (now : Nat) : Calm s (s.stopStream now) := by
  refine ⟨⟨rfl, ?_⟩, rfl, rfl, rfl, fun h => ⟨h.overHttp, h.answers, h.otherwise⟩⟩
  unfold stopStream
  rw [readies_note]
  rfl

theorem calm_startStream (s : Sync) (now : Nat) : Calm s (s.startStream now).1 := by
  unfold startStream
  split
  · rename_i f _
    have hrefused := calm_note s now (e := .streamStarted true) rfl
    have htold := calm_raise (s.note now (.streamStarted true)) now (n := .error .client f) rfl
    exact (hrefused.trans htold).trans ⟨rang_of_log rfl rfl, rfl, rfl, rfl, id⟩
  · refine ⟨⟨rfl, ?_⟩, rfl, rfl, rfl, fun h => ⟨h.overHttp, h.answers, h.otherwise⟩⟩
    rw [readies_note]
    rfl

theorem calm_ask (s : Sync) (now : Nat) : Calm s (s.ask now).1 := by
  unfold ask
  refine ⟨⟨rfl, ?_⟩, rfl, rfl, rfl, fun h => h.next.2⟩
  rw [readies_note]
  rfl

theorem calm_hear (s : Sync) (now : Nat) (q : Polling.Question)
    (outcome : Except Failure Fetched) : Calm s (s.hear now q outcome).1 := by
  unfold hear
  split
  · split
    · exact calm_note s now rfl
    · exact .refl s
  · exact .refl s

theorem calm_report (s : Sync) (now : Nat) (i : Identity) : Calm s (s.report now i) := by
  unfold report
  generalize s.engine.takeUsage s.calendar = taken
  obtain ⟨usage, engine⟩ := taken
  cases usage with
  | none => exact calm_engine s engine
  | some bucket => exact (calm_engine s engine).trans (calm_note _ now rfl)

/-! ## Cycles -/

/-- The end of a cycle fires the signal if its effects say so. -/
theorem rang_conclude (s : Sync) (now : Nat) (q : Polling.Question)
    (outcome : Except Failure Fetched) :
    Rang ((s.cycleOf q outcome).effects.contains .announce) s (s.conclude now q outcome).1 ∧
      (s.conclude now q outcome).1.mustSucceedFirst = s.mustSucceedFirst := by
  have hc := calm_hear s now q outcome
  have hp := sameParts_hear s now q outcome
  have hplain := plain_conclude s.polling s.engine q (s.heard q outcome)
  unfold conclude cycleOf
  simp only [hear_heard, hp.polling, hp.engine]
  refine ⟨?_, (sameParts_performAll now _ _).mustSucceedFirst.trans hc.mustSucceedFirst⟩
  have hset : Rang false (s.hear now q outcome).1 { (s.hear now q outcome).1 with
      polling := (s.polling.conclude s.engine q (s.heard q outcome)).polling
      engine := (s.polling.conclude s.engine q (s.heard q outcome)).engine } :=
    rang_of_log rfl rfl
  exact (hc.rang.trans hset).trans (rang_performAll now hplain _)

theorem contains_announcement (p : Polling) :
    p.announcement.contains .announce = !p.announced := by
  unfold Polling.announcement
  cases p.announced <;> rfl

/-- What is known after the end of a cycle over HTTP. The word that there are toggles is said when
what has come tells so, and it was not said before. -/
structure Learnt (p : Polling) (q : Polling.Question) (outcome : Except Failure Fetched)
    (c : Polling.Cycle) : Prop where
  fetched : c.polling.fetched = true →
    p.fetched = true ∨ (∃ f, outcome = .ok f) ∨ (Happening.asked q outcome).IsSwallowed
  announced : c.polling.announced = (p.announced || (Happening.asked q outcome).tells)
  effects : c.effects.contains .announce =
    ((Happening.asked q outcome).tells && !p.announced)

/-- A cycle that keeps what is known, and says nothing, has learnt nothing. -/
theorem learnt_of_quiet {p : Polling} {q : Polling.Question} {outcome : Except Failure Fetched}
    {c : Polling.Cycle} (htells : (Happening.asked q outcome).tells = false)
    (hp : c.polling = p) (he : c.effects.contains .announce = false) : Learnt p q outcome c := by
  refine ⟨fun h => .inl (hp ▸ h), ?_, ?_⟩
  · rw [hp, htells, Bool.or_false]
  · rw [he, htells, Bool.false_and]

theorem learnt_of_ok (p : Polling) (e : Engine) (q : Polling.Question) (f : Fetched) :
    Learnt p q (.ok f) (p.conclude e q (.ok f)) := by
  unfold Polling.conclude
  simp only
  cases hn : Polling.news? q.tag f with
  | none =>
    have htells : (Happening.asked q (.ok f)).tells = true := by rw [Happening.tells, hn]
    refine ⟨fun _ => .inr (.inl ⟨f, rfl⟩), ?_, ?_⟩
    · rw [htells, Bool.or_true]
    · rw [htells, Bool.true_and]
      exact contains_announcement p
  | some news =>
    obtain ⟨state, tag⟩ := news
    have htells : (Happening.asked q (.ok f)).tells = isReadable state := by
      rw [Happening.tells, hn]
    simp only
    cases hr : isReadable state with
    | false =>
      obtain ⟨x, hx⟩ := takeState_of_unreadable e hr
      rw [hx]
      refine ⟨fun _ => .inr (.inl ⟨f, rfl⟩), ?_, ?_⟩
      · rw [htells, hr, Bool.or_false]
      · rw [htells, hr]
        rfl
    | true =>
      rw [takeState_of_readable e hr]
      refine ⟨fun _ => .inr (.inl ⟨f, rfl⟩), ?_, ?_⟩
      · rw [htells, hr, Bool.or_true]
      · have hannounced := contains_announcement { p with fetched := true }
        rw [htells, hr, Bool.true_and]
        simpa using hannounced

theorem learnt (s : Sync) (hb : s.backend.overHttp = true) (q : Polling.Question)
    (outcome : Except Failure Fetched) : Learnt s.polling q outcome (s.cycleOf q outcome) := by
  unfold cycleOf heard
  rw [if_pos hb]
  cases outcome with
  | ok f => exact learnt_of_ok s.polling s.engine q f
  | error f =>
    by_cases hc : f = .cancelled
    · subst hc
      exact learnt_of_quiet rfl rfl rfl
    · have hheard : hearFetched q.mustSucceed (.error f) =
          if q.mustSucceed then (.error f, none) else (.ok .unchanged, some f) := by
        cases f <;> first | rfl | exact absurd rfl hc
      have htells : (Happening.asked q (.error f)).tells = !q.mustSucceed := by
        cases f <;> first | rfl | exact absurd rfl hc
      rw [hheard]
      cases hm : q.mustSucceed with
      | true =>
        rw [hm] at htells
        refine learnt_of_quiet htells ?_ ?_ <;> cases f <;> rfl
      | false =>
        -- the failure was told of by the one who asked, and is heard as no change
        have hunchanged := learnt_of_ok s.polling s.engine q .unchanged
        have hsame : (Happening.asked q (.error f)).tells =
            (Happening.asked q (.ok .unchanged)).tells := by
          rw [htells, hm]
          rfl
        refine ⟨fun _ => .inr (.inr ⟨hm, f, rfl, hc⟩), ?_, ?_⟩
        · rw [hsame]
          exact hunchanged.announced
        · rw [hsame]
          exact hunchanged.effects

/-! ## The stream -/

theorem plain_takes (s : Streaming) (e : Engine) (rules : Failover.Rules) (x : StreamCall) :
    (s.takes e rules x).effects.all Effect.isPlain = true := by
  unfold Streaming.takes
  split
  · rfl
  · exact plain_message s e rules x.time _
  · exact plain_failed s rules x.time _
  · rfl

/-- What is known after a call of the stream. -/
structure Overheard (s : Sync) (x : StreamCall) (s' : Sync) : Prop where
  rang : Rang (x.accepted?.isSome && !s.streaming.announced) s s'
  announced : s'.streaming.announced = (s.streaming.announced || x.accepted?.isSome)
  polling : s'.polling = s.polling
  mustSucceedFirst : s'.mustSucceedFirst = s.mustSucceedFirst
  backend : s'.backend = s.backend

theorem overheard (s : Sync) (x : StreamCall) : Overheard s x (s.listen x).1 := by
  have hr := s.streaming.reacted s.engine s.rules x
  have hplain := plain_takes s.streaming s.engine s.rules x
  have hcontains : (s.streaming.takes s.engine s.rules x).effects.contains .announce =
      (x.accepted?.isSome && !s.streaming.announced) := by
    rw [Bool.eq_iff_iff, List.contains_iff_mem, hr.announces, Bool.and_comm]
  rw [listen_eq]
  generalize s.streaming.takes s.engine s.rules x = r at hr hplain hcontains
  let t : Sync := { s with calendar := x.time, streaming := r.streaming, engine := r.engine }
  have hset : Rang false s t := rang_of_log rfl rfl
  have hrang := hset.trans (rang_performAll x.tick hplain t)
  have hp := sameParts_performAll x.tick r.effects t
  rw [hcontains] at hrang
  refine ⟨hrang, ?_, hp.polling, hp.mustSucceedFirst, hp.backend⟩
  rw [hp.streaming]
  exact hr.announced

/-! ## Backups -/

theorem calm_loadBackup (s : Sync) (now : Nat) : Calm s (s.loadBackup now).1 :=
  along_loadBackup (fun t _ h => h.trans (calm_note t now rfl))
    (fun t _ h => h.trans (calm_raise t now rfl)) (.refl s)

/-- To begin with a backup has nothing to do with the signal. Polling knows of nothing yet. -/
theorem calm_restore (s : Sync) (now : Nat) :
    ∃ t tag, Calm s t ∧ Client.restore s now = { t with polling := .new tag } := by
  have hload := s.calm_loadBackup now
  unfold Client.restore
  generalize s.loadBackup now = loaded at hload
  obtain ⟨t, backup⟩ := loaded
  simp only
  split
  · exact ⟨t, backup.tag, hload, rfl⟩
  · split
    · exact ⟨_, backup.tag, hload.trans (calm_engine t _), rfl⟩
    · exact ⟨_, none, hload.trans (calm_raise t now rfl), rfl⟩

end Sync

end ToggleSync
