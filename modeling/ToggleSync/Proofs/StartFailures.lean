-- What may go wrong in a start that puts up with failures. Whatever its backup and its server give,
-- it goes through, but for one answer: a first state that is new and cannot be read ends it, though
-- any failure of the request would not have.
import ToggleSync.Proofs.FailedFetches
import ToggleSync.Proofs.Readiness

namespace ToggleSync

open Machine (clientToken)

/-! ## Answers that end a cycle -/

/-- The answer ends a cycle with a failure, whatever the cycle was told to put up with: it was
called off, or it brings something new that cannot be read. -/
inductive Polling.Spoils (sent : Option String) : Except Failure Fetched → Failure → Prop
  | calledOff : Spoils sent (.error .cancelled) .cancelled
  | unreadable {f : Fetched} {state tag : String} {e : StateError}
      (news : news? sent f = some (state, tag)) (unread : Update.read state = .error e) :
      Spoils sent (.ok f) (.reported (.state e))

namespace Polling

theorem not_spoils_failure {sent : Option String} {g f : Failure} (hg : g ≠ .cancelled) :
    ¬ Spoils sent (.error g) f := by
  rintro ⟨⟩
  exact hg rfl

theorem not_spoils_old {sent : Option String} {fetched : Fetched} {f : Failure}
    (h : news? sent fetched = none) : ¬ Spoils sent (.ok fetched) f := by
  intro hs
  cases hs with
  | unreadable news _ => rw [h] at news; cases news

theorem conclude_error_iff (p : Polling) (e : Engine) {q : Question} (hq : q.mustSucceed = false)
    (outcome : Except Failure Fetched) (f : Failure) :
    (p.conclude e q outcome).result = .error f ↔ Spoils q.tag outcome f := by
  rcases outcome with g | fetched
  · by_cases hg : g = .cancelled
    · subst hg
      constructor
      · rintro ⟨⟩
        exact .calledOff
      · rintro ⟨⟩
        rfl
    · rw [conclude_failure p e q hg, hq]
      exact iff_of_false (by simp) (not_spoils_failure hg)
  · cases hn : news? q.tag fetched with
    | none =>
      simp only [conclude, hn]
      exact iff_of_false (by simp) (not_spoils_old hn)
    | some new =>
      obtain ⟨state, tag⟩ := new
      simp only [conclude, hn, Engine.takeState]
      cases hr : Update.read state with
      | error x =>
        constructor
        · rintro ⟨⟩
          exact .unreadable hn hr
        · intro hs
          cases hs with
          | unreadable news unread =>
            cases hn.symm.trans news
            cases hr.symm.trans unread
            rfl
      | ok u =>
        refine iff_of_false (by simp) ?_
        intro hs
        cases hs with
        | unreadable news unread =>
          cases hn.symm.trans news
          cases hr.symm.trans unread

end Polling

namespace Sync

/-- That a failure need not be handed on changes nothing about it. -/
theorem spoils_heard (s : Sync) {q : Polling.Question} (hq : q.mustSucceed = false)
    (sent : Option String) (outcome : Except Failure Fetched) (f : Failure) :
    Polling.Spoils sent (s.heard q outcome) f ↔ Polling.Spoils sent outcome f := by
  unfold heard
  split
  · rcases outcome with g | fetched
    · by_cases hg : g = .cancelled
      · subst hg
        rfl
      · rw [hearFetched_failure _ hg, hq]
        exact iff_of_false (Polling.not_spoils_old rfl) (Polling.not_spoils_failure hg)
    · rfl
  · rfl

theorem result_conclude (s : Sync) (now : Nat) (q : Polling.Question)
    (outcome : Except Failure Fetched) :
    (s.conclude now q outcome).2 = (s.cycleOf q outcome).result := by
  have hp := sameParts_hear s now q outcome
  unfold conclude cycleOf
  simp only [hear_heard, hp.polling, hp.engine]

theorem conclude_error_iff (s : Sync) (now : Nat) {q : Polling.Question}
    (hq : q.mustSucceed = false) (outcome : Except Failure Fetched) (f : Failure) :
    (s.conclude now q outcome).2 = .error f ↔ Polling.Spoils q.tag outcome f := by
  rw [result_conclude, cycleOf, Polling.conclude_error_iff _ _ hq, spoils_heard s hq]

/-- A failure that ends nothing is told of. -/
theorem clientFailures_conclude (s : Sync) (now : Nat) {q : Polling.Question}
    (hq : q.mustSucceed = false) {f : Failure} (hf : f ≠ .cancelled) :
    (s.conclude now q (.error f)).1.clientFailures = s.clientFailures ++ [f] := by
  cases ho : s.backend.overHttp with
  | true =>
    have hr := (rounded_conclude ho now q (.error f)).told
    rw [hearFetched_failure _ hf, hq] at hr
    simp only [Bool.false_eq_true, if_false, conclude_unchanged, filterMap_announcement,
      List.append_nil] at hr
    exact hr
  | false =>
    have hhear : s.hear now q (.error f) = (s, .error f) := by simp [hear, ho]
    unfold conclude
    simp only [hhear, conclude_failure _ _ _ hf, clientFailures_performAll]
    rfl

end Sync

/-- Whatever a backup holds, the server is still to be asked. -/
theorem Client.restore_keeps (s : Sync) (now : Nat) :
    (restore s now).backend = s.backend ∧
      (restore s now).mustSucceedFirst = s.mustSucceedFirst ∧
      (restore s now).polling.fetched = false := by
  have hload := s.sameParts_loadBackup now
  unfold restore
  generalize s.loadBackup now = loaded at hload
  obtain ⟨t, backup⟩ := loaded
  simp only
  split
  · exact ⟨hload.backend, hload.mustSucceedFirst, rfl⟩
  · split
    · exact ⟨hload.backend, hload.mustSucceedFirst, rfl⟩
    · exact ⟨hload.backend, hload.mustSucceedFirst, rfl⟩

/-! ## The first cycle -/

namespace Machine

variable {o : Coordinator.Options} {m : Machine}

/-- A machine that has sent the question of its first cycle and waited for the answer. -/
def waited (m : Machine) : Machine :=
  let asked : Machine := { m with state := (m.state.ask m.now).1 }
  asked.waitUntil Sync.behaviour (fun _ => false) m.state.backend.next.1.ticks

theorem runCycle_eq (ht : m.isCancelled clientToken = false) :
    m.runCycle =
      ({ m.waited with
          state := (m.waited.state.conclude m.waited.now m.state.question
            m.state.backend.next.1.outcome).1 },
        (m.waited.state.conclude m.waited.now m.state.question
          m.state.backend.next.1.outcome).2) := by
  unfold runCycle
  rw [ht]
  rfl

theorem Bare.waited (h : m.Bare o m.state []) : m.waited.Bare o m.state [] := by
  have hasked : Bare o m.state [] { m with state := (m.state.ask m.now).1 } :=
    ⟨h.kept, h.token, h.bare, samePath_ask _ _, Sync.polled_ask _ _⟩
  exact (Bare.stable o m.state).waitUntil (fun _ => false) m.state.backend.next.1.ticks hasked

/-- A first cycle that puts up with failures. -/
structure Opens (m : Machine) (m' : Machine) (result : Except Failure Unit) : Prop where
  result : ∀ f, result = .error f ↔
    Polling.Spoils m.state.polling.tag m.state.backend.next.1.outcome f
  polled : Polled m.state
    (accepted? m.state.polling.tag m.state.backend.next.1.outcome).toList m'.state
  told : ∀ f, m.state.backend.next.1.outcome = .error f → f ≠ .cancelled →
    f ∈ m'.state.clientFailures

theorem opens_runCycle (h : m.Bare o m.state []) (hmust : m.state.mustSucceedFirst = false) :
    m.Opens m.runCycle.1 m.runCycle.2 ∧
      m.runCycle.1.Bare o m.state
        (accepted? m.state.polling.tag m.state.backend.next.1.outcome).toList := by
  have hq : m.state.question.mustSucceed = false := by
    simp [Sync.question, Polling.ask, hmust]
  have hw := h.waited
  have hpolled := hw.polled.trans (Sync.polled_conclude m.waited.state m.waited.now
    m.state.question m.state.backend.next.1.outcome)
  rw [runCycle_eq h.token]
  refine ⟨⟨fun f => ?_, hpolled, fun f hf hne => ?_⟩, ?_⟩
  · exact Sync.conclude_error_iff _ _ hq _ f
  · simp only [hf, Sync.clientFailures_conclude _ _ hq hne]
    exact List.mem_append_right _ (List.mem_singleton_self f)
  · exact ⟨hw.kept, hw.token, hw.bare, hw.path.trans (samePath_conclude _ _ _ _), hpolled⟩

/-- Polling starts unless its first cycle fails. -/
theorem startPolling_first (h : m.Bare o m.state []) (hfetched : m.state.polling.fetched = false)
    (hmust : m.state.mustSucceedFirst = false) :
    (m.startPolling true).2 = m.runCycle.2 ∧
      (m.startPolling true).1.state = m.runCycle.1.state := by
  have hbare := (opens_runCycle h hmust).2
  unfold startPolling
  simp only [hfetched, Bool.not_false, Bool.and_true, if_true]
  cases hr : m.runCycle.2 with
  | error f => exact ⟨rfl, rfl⟩
  | ok u =>
    obtain ⟨tasks, hstart, _⟩ := hbare.kept.start hbare.still hbare.token
    simp only [Clockwork.startTask, hstart]
    exact ⟨rfl, rfl⟩

end Machine

/-! ## The start -/

namespace Coordinator

variable {m : Machine} {o : Options}

/-- A start in polling fails as polling does. -/
theorem start_polling_eq :
    let started := (m.withPolling o.interval o.eager).stopStream.startPolling o.synchronous
    (start m o .polling).2 = started.2 ∧
      (started.2 = .ok () → (start m o .polling).1.sync = started.1.state) := by
  intro started
  have hstarted : (m.withPolling o.interval o.eager).stopStream.startPolling o.synchronous =
      (started.1, started.2) := rfl
  unfold start
  simp only [activate, enterPolling, Bool.false_or, decide_eq_true_eq, reduceCtorEq, if_false,
    Bool.true_and, hstarted]
  cases started.2 with
  | error f => exact ⟨rfl, by simp⟩
  | ok u => exact ⟨rfl, fun _ => rfl⟩

/-- A start in streaming fails only where the stream is refused. -/
theorem start_streaming_error_iff (hm : m.Fresh) (f : Failure) :
    (start m o .streaming).2 = .error f ↔
      ∃ g, m.state.backend.startFailure = some g ∧ f = .reported g := by
  have hbare := hm.withPolling o
  obtain ⟨tasks, hstop, _⟩ := Machine.stopPolling_of_kept hbare.kept
  unfold start
  simp only [activate, enterStreaming, Bool.false_or, decide_eq_true_eq, reduceCtorEq, if_false,
    hstop, Machine.startStream]
  have hstate : (m.withPolling o.interval o.eager).state = m.state := rfl
  simp only [hstate, Sync.startStream]
  cases m.state.backend.startFailure with
  | none => simp
  | some g => simp [eq_comm]

/-- What a start in polling comes to that puts up with failures: it asks once, at most. -/
theorem forgiving_start_polling (hm : m.Fresh) (hfetched : m.state.polling.fetched = false)
    (hmust : m.state.mustSucceedFirst = false) :
    (∀ f, (start m o .polling).2 = .error f ↔ o.synchronous = true ∧
      Polling.Spoils m.state.polling.tag m.state.backend.next.1.outcome f) ∧
    (o.synchronous = true → (start m o .polling).2 = .ok () →
      (start m o .polling).1.sync.engine.snapshot = m.state.engine.snapshot.afterAll
          (accepted? m.state.polling.tag m.state.backend.next.1.outcome).toList ∧
      ∀ f, m.state.backend.next.1.outcome = .error f →
        f ∈ (start m o .polling).1.sync.clientFailures) := by
  let ready : Machine := (m.withPolling o.interval o.eager).stopStream
  have hbare : ready.Bare o ready.state [] := (hm.withPolling o).anew (m.state.stopStream m.now)
  have hnext : ready.state.backend.next.1 = m.state.backend.next.1 := next_stopStream m.state m.now
  obtain ⟨hresult, hsync⟩ := start_polling_eq (m := m) (o := o)
  cases ho : o.synchronous with
  | false =>
    rw [ho] at hresult hsync
    obtain ⟨tasks, hstart, _⟩ := Machine.startPolling_of_still hbare.kept hbare.still hbare.token
    have hok : (ready.startPolling false).2 = .ok () := congrArg Prod.snd hstart
    rw [hresult, hok]
    exact ⟨fun f => by simp, nofun⟩
  | true =>
    rw [ho] at hresult hsync
    obtain ⟨hfirst, hstate⟩ := Machine.startPolling_first hbare hfetched hmust
    have hopens := (Machine.opens_runCycle hbare hmust).1
    rw [← hnext]
    have herror : ∀ f, (start m o .polling).2 = .error f ↔
        Polling.Spoils m.state.polling.tag ready.state.backend.next.1.outcome f := by
      intro f
      rw [hresult, hfirst]
      exact hopens.result f
    refine ⟨fun f => by rw [herror f, eq_self_iff_true, true_and], fun _ hok => ?_⟩
    rw [hsync (hresult.symm.trans hok), hstate]
    refine ⟨hopens.polled.snapshot, fun f hf => hopens.told f hf ?_⟩
    rintro rfl
    have hbad := (herror .cancelled).mpr (by rw [hf]; exact .calledOff)
    cases hbad.symm.trans hok

end Coordinator

/-! ## The law of starts -/

namespace Client

/-- Settings that are valid, with headers that can be sent, are built with. -/
theorem build_of_valid {s : Settings} {i : Identity} {p : Parts} (hvalid : s.validate = .ok ())
    (hheaders : p.backend.overHttp = true → Http.check s i = .ok ()) :
    build s i p = .ok (start s i p) := by
  unfold build
  rw [hvalid]
  cases ho : p.backend.overHttp with
  | false => rfl
  | true =>
    rw [hheaders ho]
    rfl

/-- With settings that are valid and put up with a failure of the first question, a client is built
whatever its backup and its server give. The start goes through unless a stream is refused to a
client that begins with streaming, or the answer to a first question that is waited for was called
off or brings a new state that cannot be read. Otherwise a failure of that question is told of, and
the toggles are those from before, changed by what is accepted of the answer. -/
theorem a_forgiving_start_fails_only_over_a_state_that_cannot_be_read (s : Settings)
    (i : Identity) (p : Parts) (hvalid : s.validate = .ok ())
    (hheaders : p.backend.overHttp = true → Http.check s i = .ok ())
    (hforgiving : s.mustSucceedFirst = false) :
    let sent := (begun s p).polling.tag
    let first := p.backend.next.1.outcome
    ∃ c result, build s i p = .ok (c, result) ∧
      (s.streaming = true → ∀ f, result = .error f ↔
        ∃ g, p.backend.startFailure = some g ∧ f = .reported g) ∧
      (s.streaming = false → ∀ f, result = .error f ↔
        s.synchronous = true ∧ Polling.Spoils sent first f) ∧
      (s.streaming = false → s.synchronous = true → result = .ok () →
        c.sync.engine.snapshot =
          (begun s p).engine.snapshot.afterAll (accepted? sent first).toList ∧
        ∀ f, first = .error f → f ∈ c.sync.clientFailures) := by
  intro sent first
  let m := Machine.base (begun s p) s.metricsInterval i
  have hfresh : m.Fresh := Machine.fresh_base _ _ _
  have hstate : m.state = begun s p := Machine.state_base _ _ _
  obtain ⟨hbackend, hmust, hfetched⟩ :=
    restore_keeps (.new p.backend none s.mustSucceedFirst s.failover p.keeping) 0
  change (begun s p).backend = p.backend at hbackend
  let o : Coordinator.Options := ⟨s.fetchInterval.ticks, s.eager, s.synchronous⟩
  have hstart : ∀ mode, s.initialMode = mode →
      (start s i p).2 = (Coordinator.start m o mode).2 ∧
        (start s i p).1.sync = (Coordinator.start m o mode).1.sync := by
    rintro _ rfl
    exact ⟨rfl, rfl⟩
  refine ⟨(start s i p).1, (start s i p).2, build_of_valid hvalid hheaders, ?_, ?_⟩
  · intro hs f
    have hmode : s.initialMode = .streaming := by simp [Settings.initialMode, hs]
    rw [(hstart _ hmode).1, Coordinator.start_streaming_error_iff hfresh, hstate, hbackend]
  · have hpolling := Coordinator.forgiving_start_polling (o := o) hfresh
      (by rw [hstate]; exact hfetched) (by rw [hstate]; exact hmust.trans hforgiving)
    rw [hstate, hbackend] at hpolling
    have hmode : s.streaming = false → s.initialMode = .polling := by
      intro hs
      simp [Settings.initialMode, hs]
    refine ⟨fun hs => ?_, fun hs => ?_⟩
    · rw [(hstart _ (hmode hs)).1]
      exact hpolling.1
    · rw [(hstart _ (hmode hs)).1, (hstart _ (hmode hs)).2]
      exact hpolling.2

/-- The server is down: the client starts, tells of it, and has the toggles that it began with. -/
theorem a_forgiving_client_starts_though_its_server_is_down :
    let p := replying [⟨503, none, textBytes "down", false⟩]
    (prompt false).validate = .ok () ∧
      (p.backend.overHttp = true → Http.check (prompt false) promptIdentity = .ok ()) ∧
      (prompt false).mustSucceedFirst = false ∧
      ∃ c, build (prompt false) promptIdentity p = .ok (c, .ok ()) ∧
        .serverError 503 "down" ∈ c.sync.clientFailures ∧
        c.sync.engine.snapshot = (begun (prompt false) p).engine.snapshot := by
  intro p
  have hvalid : (prompt false).validate = .ok () := by decide +kernel
  have hheaders : p.backend.overHttp = true → Http.check (prompt false) promptIdentity = .ok () :=
    fun _ => by decide +kernel
  have hfirst : p.backend.next.1.outcome = .error (.serverError 503 "down") := by decide +kernel
  obtain ⟨c, result, hbuild, -, hfails, hstarted⟩ :=
    a_forgiving_start_fails_only_over_a_state_that_cannot_be_read (prompt false) promptIdentity p
      hvalid hheaders rfl
  have hok : result = .ok () := by
    cases result with
    | ok u => rfl
    | error f =>
      have hspoils := ((hfails rfl f).mp rfl).2
      rw [hfirst] at hspoils
      exact absurd hspoils (Polling.not_spoils_failure nofun)
  subst hok
  obtain ⟨hsnapshot, htold⟩ := hstarted rfl rfl rfl
  rw [hfirst] at hsnapshot
  exact ⟨hvalid, hheaders, rfl, c, hbuild, htold _ hfirst, hsnapshot⟩

/-- A reply that no state can be read from. -/
def garbled : Http.Reply := ⟨200, some "v1", textBytes "\x7bnot json", false⟩

/-- A client that puts up with failures of its first question is not given, because the answer to it
cannot be read. -/
theorem a_garbled_answer_fails_a_forgiving_start :
    (prompt false).validate = .ok () ∧ Http.check (prompt false) promptIdentity = .ok () ∧
      (prompt false).mustSucceedFirst = false ∧
      ∃ c, build (prompt false) promptIdentity (replying [garbled]) =
        .ok (c, .error (.reported (.state (.malformed (.text ⟨.keyNotText, 1, 2⟩))))) := by
  have hvalid : (prompt false).validate = .ok () := by decide +kernel
  have hcheck : Http.check (prompt false) promptIdentity = .ok () := by decide +kernel
  have hresult : (start (prompt false) promptIdentity (replying [garbled])).2 =
      .error (.reported (.state (.malformed (.text ⟨.keyNotText, 1, 2⟩)))) := by decide +kernel
  refine ⟨hvalid, hcheck, rfl, (start (prompt false) promptIdentity (replying [garbled])).1, ?_⟩
  rw [build_of_valid hvalid fun _ => hcheck, ← hresult]

end Client

end ToggleSync
