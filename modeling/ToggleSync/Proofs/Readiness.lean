-- Why a client over HTTP is ready. Its signal goes off when the first thing comes from its server
-- that tells of toggles: an answer to a request, a state on the stream, or a request that has
-- failed when its failure is not handed on. The last is no sign of toggles. A client that hands the
-- failure of its first question on is ready only when the server has answered.
import ToggleSync.Proofs.SignalMoves

namespace ToggleSync

/-! ## Histories -/

/-- The server has answered, if the failure of the first question is one of the start. -/
def IsAnswered (must : Bool) (history : List Happening) : Prop :=
  must = true → ∃ x ∈ history, x.IsHydration

/-- What a client's readiness may be owed to: toggles that the server holds, or else a failure that
was swallowed, by a client that does not hand on the failure of its first question. -/
def IsServed (must : Bool) (history : List Happening) : Prop :=
  (∃ x ∈ history, x.IsHydration) ∨ (must = false ∧ ∃ x ∈ history, x.IsSwallowed)

namespace Happening

/-- What can come to a client over HTTP after a history: the end of a request, which may have been
called off, or anything on the stream. A failure is not handed on only if it need not be. -/
def CanFollow (must : Bool) (history : List Happening) : Happening → Prop
  | asked q outcome => (outcome = .error .cancelled ∨ Http.IsExchanged outcome) ∧
      (q.mustSucceed = false → IsAnswered must history)
  | streamed _ => True

end Happening

section

variable {must : Bool} {history : List Happening} {x : Happening}

theorem IsAnswered.append (h : IsAnswered must history) (more : List Happening) :
    IsAnswered must (history ++ more) := by
  intro hm
  obtain ⟨x, hx, hyd⟩ := h hm
  exact ⟨x, List.mem_append_left more hx, hyd⟩

theorem IsServed.append (h : IsServed must history) (more : List Happening) :
    IsServed must (history ++ more) := by
  obtain ⟨x, hx, hyd⟩ | ⟨hm, x, hx, hs⟩ := h
  · exact .inl ⟨x, List.mem_append_left more hx, hyd⟩
  · exact .inr ⟨hm, x, List.mem_append_left more hx, hs⟩

namespace Happening

theorem CanFollow.append (h : x.CanFollow must history) (more : List Happening) :
    x.CanFollow must (history ++ more) := by
  cases x with
  | streamed text => trivial
  | asked q outcome => exact ⟨h.1, fun hq => (h.2 hq).append more⟩

theorem CanFollow.of_ok {q : Polling.Question} {f : Fetched}
    (h : (asked q (.ok f)).CanFollow must history) : (asked q (.ok f)).IsHydration := by
  obtain hc | he := h.1
  · cases hc
  · obtain ⟨r, hr, hf⟩ := he.answered rfl
    exact ⟨r, hr, f, hf, rfl⟩

/-- Of what can come over HTTP, everything that tells of toggles brings them, or was swallowed. -/
theorem CanFollow.of_tells (h : x.CanFollow must history) (ht : x.tells = true) :
    x.IsHydration ∨ x.IsSwallowed := by
  cases x with
  | streamed text => exact .inl ht
  | asked q outcome =>
    cases outcome with
    | ok f => exact .inl h.of_ok
    | error f =>
      have hf : f ≠ .cancelled := by
        rintro rfl
        cases ht
      have hq : q.mustSucceed = false := by
        cases f <;> first | exact absurd rfl hf | simpa [tells] using ht
      exact .inr ⟨hq, f, rfl, hf⟩

/-- A swallowed failure counts as an answer. Where it should not, its question was asked only after
an answer. -/
theorem CanFollow.answered (h : x.CanFollow must history)
    (hx : x.IsHydration ∨ x.IsSwallowed) : IsAnswered must (history ++ [x]) := by
  rcases hx with hyd | hs
  · exact fun _ => ⟨x, List.mem_append_right history List.mem_cons_self, hyd⟩
  · cases x with
    | streamed text => exact hs.elim
    | asked q outcome => exact (h.2 hs.1).append _

end Happening

theorem IsServed.of_tells (h : x.CanFollow must history) (ht : x.tells = true) :
    IsServed must (history ++ [x]) := by
  have hx : x ∈ history ++ [x] := List.mem_append_right history List.mem_cons_self
  have htold := h.of_tells ht
  cases must with
  | true => exact .inl (h.answered htold rfl)
  | false =>
    rcases htold with hyd | hs
    · exact .inl ⟨x, hx, hyd⟩
    · exact .inr ⟨rfl, x, hx, hs⟩

end

/-! ## The invariant -/

/-- What is so of the parts of a client over HTTP after a history. The signal has gone off, and was
told of, when something in the history tells of toggles. -/
structure Sync.Grounded (must : Bool) (s : Sync) (history : List Happening) : Prop where
  isHttp : s.backend.IsHttp
  mustSucceedFirst : s.mustSucceedFirst = must
  fetched : s.polling.fetched = true → IsAnswered must history
  announced : (s.polling.announced || s.streaming.announced) = history.any (·.tells)
  ready : s.ready = ⟨history.any (·.tells), true⟩
  readies : s.readies = (history.any (·.tells)).toNat
  served : history.any (·.tells) = true → IsServed must history

namespace Sync.Grounded

variable {must : Bool} {s s' : Sync} {history : List Happening}

theorem calm (h : s.Grounded must history) (hc : s.Calm s') : s'.Grounded must history where
  isHttp := hc.isHttp h.isHttp
  mustSucceedFirst := hc.mustSucceedFirst.trans h.mustSucceedFirst
  fetched := by
    rw [hc.polling]
    exact h.fetched
  announced := by
    rw [hc.polling, hc.announced]
    exact h.announced
  ready := hc.rang.ready.trans h.ready
  readies := hc.rang.readies.trans h.readies
  served := h.served

/-- The signal after something has come that is said to tell of toggles, unless that was said
before. -/
theorem signal (h : s.Grounded must history) {x : Happening} {said : Bool}
    (hsaid : said = true → history.any (·.tells) = true)
    (hrang : Rang (x.tells && !said) s s') :
    s'.ready = ⟨(history ++ [x]).any (·.tells), true⟩ ∧
      s'.readies = ((history ++ [x]).any (·.tells)).toNat := by
  obtain ⟨hready, hreadies⟩ := hrang
  rw [h.ready] at hready hreadies
  rw [h.readies] at hreadies
  have hany : (history ++ [x]).any (·.tells) = (history.any (·.tells) || x.tells) := by simp
  rw [hany, hready, hreadies]
  -- the signal is left alone only where nothing is told, or what was said before has fired it
  cases ht : x.tells <;> cases hh : history.any (·.tells) <;> cases said <;>
    first | exact ⟨rfl, rfl⟩ | exact absurd (hsaid rfl) (by rw [hh]; exact Bool.false_ne_true)

/-- Something has come, and what was learnt of it is known. -/
theorem extend (h : s.Grounded must history) {x : Happening} (hx : x.CanFollow must history)
    {said : Bool} (hsaid : said = true → history.any (·.tells) = true)
    (hrang : Rang (x.tells && !said) s s') (hbackend : s'.backend = s.backend)
    (hmust : s'.mustSucceedFirst = s.mustSucceedFirst)
    (hfetched : s'.polling.fetched = true →
      s.polling.fetched = true ∨ x.IsHydration ∨ x.IsSwallowed)
    (hannounced : (s'.polling.announced || s'.streaming.announced) =
      ((s.polling.announced || s.streaming.announced) || x.tells)) :
    s'.Grounded must (history ++ [x]) := by
  obtain ⟨hready, hreadies⟩ := h.signal hsaid hrang
  refine ⟨hbackend ▸ h.isHttp, hmust.trans h.mustSucceedFirst, ?_, ?_, hready, hreadies, ?_⟩
  · intro hf
    rcases hfetched hf with hf | hx'
    · exact (h.fetched hf).append [x]
    · exact hx.answered hx'
  · rw [hannounced, h.announced]
    simp
  · intro ht
    rw [List.any_append, Bool.or_eq_true] at ht
    rcases ht with ht | ht
    · exact (h.served ht).append [x]
    · rw [List.any_cons, List.any_nil, Bool.or_false] at ht
      exact .of_tells hx ht

/-- A cycle comes to its end. -/
theorem conclude (h : s.Grounded must history) (now : Nat) {q : Polling.Question}
    {outcome : Except Failure Fetched} (hx : (Happening.asked q outcome).CanFollow must history) :
    (s.conclude now q outcome).1.Grounded must (history ++ [.asked q outcome]) := by
  have hl := s.learnt h.isHttp.overHttp q outcome
  have hc := s.concluded now q outcome
  obtain ⟨hrang, hmust⟩ := s.rang_conclude now q outcome
  rw [hl.effects] at hrang
  have hsaid : s.polling.announced = true → history.any (·.tells) = true := by
    intro hp
    rw [← h.announced, hp, Bool.true_or]
  refine h.extend hx hsaid hrang hc.backend hmust ?_ ?_
  · rw [hc.polling]
    intro hf
    obtain hf | ⟨f, rfl⟩ | hs := hl.fetched hf
    · exact .inl hf
    · exact .inr (.inl hx.of_ok)
    · exact .inr (.inr hs)
  · rw [hc.polling, hc.streaming, hl.announced]
    exact Bool.or_right_comm _ _ _

/-- A call of the stream comes, with a state or without. -/
theorem listen (h : s.Grounded must history) (x : StreamCall) :
    (s.listen x).1.Grounded must (history ++ x.payload?.toList.map .streamed) := by
  have ho := s.overheard x
  have hrang := ho.rang
  have hannounced := ho.announced
  cases hp : x.payload? with
  | none =>
    rw [Streaming.accepted?_of_no_payload hp] at hrang hannounced
    rw [Option.isSome_none, Bool.or_false] at hannounced
    rw [Option.toList_none, List.map_nil, List.append_nil]
    exact h.calm ⟨hrang, ho.mustSucceedFirst, ho.polling, hannounced, fun hb => ho.backend ▸ hb⟩
  | some text =>
    have ha : x.accepted?.isSome = (Happening.streamed text).tells := by
      rw [StreamCall.accepted?, hp, Option.filter_some, Happening.tells]
      cases isReadable text <;> rfl
    rw [ha] at hrang hannounced
    have hsaid : s.streaming.announced = true → history.any (·.tells) = true := by
      intro hp
      rw [← h.announced, hp, Bool.or_true]
    rw [Option.toList_some, List.map_singleton]
    refine h.extend trivial hsaid hrang ho.backend ho.mustSucceedFirst ?_ ?_
    · rw [ho.polling]
      exact .inl
    · rw [ho.polling, hannounced, Bool.or_assoc]

/-- The question that would be asked now. -/
theorem canFollow_question (h : s.Grounded must history) :
    (Happening.asked s.question s.backend.next.1.outcome).CanFollow must history := by
  refine ⟨.inr h.isHttp.next.1, ?_⟩
  intro hq hm
  have hf : s.polling.fetched = true := by
    simpa [question, Polling.ask, h.mustSucceedFirst, hm] using hq
  exact h.fetched hf hm

end Sync.Grounded

namespace Machine

variable {must : Bool} {m m' : Machine} {history : List Happening}

/-- The parts of a client are as the history says, and so is what its tasks wait for. -/
structure Grounded (must : Bool) (m : Machine) (history : List Happening) : Prop where
  state : m.state.Grounded must history
  tasks : m.tasks.Only (· ≠ .announce) fun a => a.happening.CanFollow must history

theorem Grounded.tacit (h : m.Grounded must history) : m.Tacit :=
  h.tasks.mono (fun _ => id) fun _ _ => trivial

theorem Grounded.calm (h : m.Grounded must history) (hc : m.Calm m') :
    m'.Grounded must history := ⟨h.state.calm hc.state, hc.only h.tasks⟩

theorem Grounded.move (h : m.Grounded must history) {i : Nat} {l : Loop Job Asked} {v : Move}
    (hm : m.CanMove i l v) :
    Grounded must (m.move Sync.behaviour i v)
      (history ++ (m.ends? l v).toList.map Asked.happening) := by
  have hquestion := h.state.canFollow_question
  have htasks := only_move h.tasks hm fun _ => hquestion
  have hends := move_ends hm (h.tacit.loop hm)
  cases he : m.ends? l v with
  | none =>
    rw [he] at hends
    rw [Option.toList_none, List.map_nil, List.append_nil]
    exact ⟨h.state.calm hends, htasks⟩
  | some a =>
    rw [he] at hends
    obtain ⟨s, hcalm, _, heq⟩ := hends
    have ha : a.happening.CanFollow must history :=
      sound_ends h.tasks.loops hm hquestion (fun a ha => ⟨.inl rfl, ha.2⟩) he
    refine ⟨?_, htasks.mono (fun _ => id) fun _ hp => hp.append _⟩
    rw [heq]
    exact (h.state.calm hcalm).conclude m.now ha

/-! ### After the end -/

/-- What is so after a history when the signal is not armed any more. -/
structure Muted (must : Bool) (m : Machine) (history : List Happening) : Prop where
  armed : m.state.ready.armed = false
  readies : m.state.readies = m.state.ready.fired.toNat
  served : m.state.ready.fired = true → IsServed must history
  tacit : m.Tacit

theorem Muted.since (h : m.Muted must history) (hs : Since m.state m')
    (more : List Happening) : m'.Muted must (history ++ more) := by
  obtain ⟨⟨fire, hrang⟩, htacit⟩ := hs
  obtain ⟨hready, hreadies⟩ := hrang.silent h.armed
  constructor
  · rw [hready]
    exact h.armed
  · rw [hreadies, hready]
    exact h.readies
  · rw [hready]
    exact fun hf => (h.served hf).append more
  · exact htacit

theorem Muted.calm (h : m.Muted must history) (hc : m.Calm m') : m'.Muted must history := by
  have hsince := h.since ⟨⟨_, hc.state.rang⟩, hc.only h.tacit⟩ []
  rwa [List.append_nil] at hsince

theorem Grounded.disarm (h : m.Grounded must history) :
    (m.update fun s => { s with ready := s.ready.disarm }).Muted must history := by
  have hfired : m.state.ready.fired = history.any (·.tells) := by rw [h.state.ready]
  refine ⟨rfl, ?_, ?_, h.tacit⟩
  · exact h.state.readies.trans (by rw [← hfired]; rfl)
  · exact fun hf => h.state.served (hfired.symm.trans hf)

/-! ### The first cycle -/

/-- No loop asks the server for anything, or waits for it. -/
def Idle (m : Machine) : Prop :=
  m.tasks.Loops (fun j => j ≠ .fetch ∧ j ≠ .announce) fun _ => False

theorem Idle.move (h : m.Idle) {i : Nat} {l : Loop Job Asked} {v : Move} (hm : m.CanMove i l v) :
    m.state.Calm (m.move Sync.behaviour i v).state ∧ Idle (m.move Sync.behaviour i v) := by
  have hloop := h l (List.mem_of_getElem? hm.loop)
  have hends := move_ends hm hloop.1.2
  have hnone : m.ends? l v = none := by
    unfold ends?
    cases v with
    | rest due => rfl
    | leave => rfl
    | begin =>
      simp only
      split
      · rename_i hj
        exact absurd hj hloop.1.1
      · rfl
    | finish cancelled =>
      simp only
      split
      · rename_i due stubborn asked hp
        exact (hloop.2 due stubborn asked hp).elim
      · rfl
  rw [hnone] at hends
  exact ⟨hends, loops_move h hm fun hj => absurd hj hloop.1.1⟩

theorem Idle.grounded (hidle : m.Idle) (htacit : m.Tacit) (h : m.state.Grounded must history) :
    m.Grounded must history := by
  refine ⟨h, htacit.slots, ?_⟩
  intro l hl
  obtain ⟨hjob, hpending⟩ := hidle l hl
  exact ⟨hjob.2, fun due stubborn p hp => (hpending due stubborn p hp).elim⟩

/-- While a first cycle waits for its answer, nothing else comes from the server. -/
theorem Idle.stable (s : Sync) : Clockwork.Stable Sync.behaviour
    fun m : Machine => s.Calm m.state ∧ m.Idle ∧ m.Tacit where
  move := by
    rintro m i l v ⟨hc, hidle, htacit⟩ hm
    obtain ⟨hmove, hstill⟩ := hidle.move hm
    exact ⟨hc.trans hmove, hstill, only_move htacit hm fun _ => trivial⟩
  pass h _ := h

theorem Idle.runCycle (hidle : m.Idle) (htacit : m.Tacit) (h : m.state.Grounded must [])
    (ht : m.isCancelled clientToken = false) :
    m.runCycle.1.Grounded must [.asked m.state.question m.state.backend.next.1.outcome] := by
  let asked : Machine := { m with state := (m.state.ask m.now).1 }
  let w : Machine := asked.waitUntil Sync.behaviour (fun _ => false) m.state.backend.next.1.ticks
  have hw : m.state.Calm w.state ∧ w.Idle ∧ w.Tacit :=
    (Idle.stable m.state).waitUntil _ _ ⟨m.state.calm_ask m.now, hidle, htacit⟩
  have hcycle : m.runCycle.1 = { w with state := (w.state.conclude w.now m.state.question
      m.state.backend.next.1.outcome).1 } := by
    unfold Machine.runCycle
    rw [ht]
    rfl
  rw [hcycle]
  obtain ⟨hcalm, hstill, hquiet⟩ := hw
  exact Idle.grounded (m := { w with state := _ }) hstill hquiet
    ((h.calm hcalm).conclude w.now h.canFollow_question)

end Machine

namespace Coordinator

variable {must : Bool} {c c' : Coordinator} {history : List Happening}

/-- What is so of a coordinator after a history, up to its disposal and from then on. -/
structure Honest (must : Bool) (c : Coordinator) (history : List Happening) : Prop where
  opened : c.disposed = false → c.machine.Grounded must history
  disposed : c.disposed = true → c.machine.Muted must history

theorem Honest.calm (h : c.Honest must history) (hc : c.Calm c') : c'.Honest must history := by
  constructor <;> rw [hc.disposed]
  · exact fun hd => (h.opened hd).calm hc.machine
  · exact fun hd => (h.disposed hd).calm hc.machine

theorem Honest.move (h : c.Honest must history) {i : Nat} {l : Loop Job Asked} {v : Move}
    (hm : c.machine.CanMove i l v) :
    Honest must { c with machine := c.machine.move Sync.behaviour i v }
      (history ++ (c.machine.ends? l v).toList.map Asked.happening) where
  opened hd := (h.opened hd).move hm
  disposed hd :=
    (h.disposed hd).since (Machine.Since.move ⟨⟨_, .refl _⟩, (h.disposed hd).tacit⟩ hm) _

theorem Honest.listen (h : c.Honest must history) (x : StreamCall) :
    (c.update fun s => (s.listen x).1).Honest must
      (history ++ x.payload?.toList.map .streamed) where
  opened hd := by
    have hm := h.opened hd
    exact ⟨hm.state.listen x, hm.tasks.mono (fun _ => id) fun _ hp => hp.append _⟩
  disposed hd := by
    have hm := h.disposed hd
    have hsince : Machine.Since c.machine.state (c.machine.update fun s => (s.listen x).1) :=
      ⟨⟨_, (c.sync.overheard x).rang⟩, hm.tacit⟩
    exact hm.since hsince _

theorem Honest.dispose (h : c.Honest must history) : c.dispose.1.Honest must history := by
  unfold Coordinator.dispose
  split
  · exact h
  · rename_i hd
    rw [Bool.not_eq_true] at hd
    -- what the tasks still bring while they end comes too late: the signal is not armed any more
    have hdisarmed := ((h.opened hd).calm c.calm_release).disarm
    have hsince := Machine.Since.shutdown ⟨⟨_, .refl _⟩, hdisarmed.tacit⟩ c.shutdownTicks
    have hmuted := hdisarmed.since hsince []
    rw [List.append_nil] at hmuted
    exact ⟨nofun, fun _ => hmuted⟩

/-! ### Starting -/

theorem next_stopStream (s : Sync) (now : Nat) :
    (s.stopStream now).backend.next.1 = s.backend.next.1 := by
  show Prod.fst (Backend.next { s.backend with streamOpen := false }) = _
  unfold Backend.next
  cases s.backend.answers <;> rfl

/-- What comes from the server in a start: at most what the first question comes to. -/
def opening (s : Sync) (o : Options) : Mode → List Happening
  | .polling => if o.synchronous then [.asked s.question s.backend.next.1.outcome] else []
  | .streaming => []

theorem grounded_afterFirst {m : Machine} (h : m.state.Grounded must [])
    (hf : m.state.polling.fetched = false) (hidle : m.Idle) (htacit : m.Tacit)
    (ht : m.isCancelled Machine.clientToken = false) (o : Options) :
    (m.stopStream.afterFirst o.synchronous).Grounded must (opening m.state o .polling) := by
  have hcalm := m.calm_stopStream
  have hstate := h.calm hcalm.state
  unfold Machine.afterFirst opening
  rw [show m.stopStream.state.polling.fetched = false from hf, Bool.not_false, Bool.and_true]
  cases o.synchronous with
  | false => exact Machine.Idle.grounded (m := m.stopStream) hidle htacit hstate
  | true =>
    have hcycle := Machine.Idle.runCycle (m := m.stopStream) hidle htacit hstate ht
    rw [show m.stopStream.state = m.state.stopStream m.now from rfl, next_stopStream] at hcycle
    exact hcycle

theorem honest_start {m : Machine} (h : m.state.Grounded must [])
    (hf : m.state.polling.fetched = false) (hidle : m.Idle) (htacit : m.Tacit)
    (ht : m.isCancelled Machine.clientToken = false) (o : Options) (mode : Mode) :
    (start m o mode).1.Honest must (opening m.state o mode) := by
  let c : Coordinator :=
    ⟨m.withPolling o.interval o.eager, none, false, o.synchronous, 1000⟩
  have hidle' : c.machine.Idle := hidle.configure _ _
  have htacit' : c.machine.Tacit := by
    refine htacit.configure ?_ _
    exact nofun
  have hactivated : (c.activate mode true).1.Honest must (opening m.state o mode) := by
    unfold activate
    rw [if_neg (by simp [c])]
    cases mode with
    | polling =>
      obtain ⟨hcalm, hd⟩ := c.calm_enterPolling true
      have hgrounded := grounded_afterFirst (m := c.machine) h hf hidle' htacit' ht o
      refine ⟨fun _ => hgrounded.calm hcalm, ?_⟩
      exact fun hd' => absurd (hd.symm.trans hd') Bool.false_ne_true
    | streaming =>
      have hcalm := c.calm_enterStreaming true
      have hgrounded := hidle'.grounded htacit' h
      refine ⟨fun _ => hgrounded.calm hcalm.machine, ?_⟩
      exact fun hd => absurd (hcalm.disposed.symm.trans hd) Bool.false_ne_true
  unfold start
  simp only
  split
  · rename_i c' u hact
    rw [show (c.activate mode true).1 = c' from congrArg Prod.fst hact] at hactivated
    exact hactivated
  · rename_i c' f hact
    rw [show (c.activate mode true).1 = c' from congrArg Prod.fst hact] at hactivated
    exact hactivated.dispose

end Coordinator

/-! ## Clients -/

namespace Client

section

variable {must : Bool} {c c' : Client} {history more : List Happening}

/-- What one step keeps. -/
theorem honest_step (h : c.coordinator.Honest must history) (hs : Step c more c') :
    c'.coordinator.Honest must (history ++ more) := by
  have hcalm : ∀ {c' : Client}, c.coordinator.Calm c'.coordinator →
      c'.coordinator.Honest must (history ++ []) := by
    intro c' hc
    rw [List.append_nil]
    exact h.calm hc
  cases hs with
  | move hm => exact h.move hm
  | pass _ => exact hcalm ⟨⟨.refl _, id⟩, rfl⟩
  | change mode => exact hcalm (c.coordinator.calm_changeMode mode)
  | takeRequests =>
    exact hcalm (Coordinator.calm_update ⟨Sync.rang_of_log rfl rfl, rfl, rfl, rfl, id⟩)
  | call x => exact h.listen x
  | server answers startFailure ha =>
    refine hcalm (Coordinator.calm_update ⟨Sync.rang_of_log rfl rfl, rfl, rfl, rfl, ?_⟩)
    exact fun hb => ⟨hb.overHttp, ha, hb.otherwise⟩
  | enabled name context default => exact hcalm (c.calm_isEnabled name context default)
  | variant name context default spare =>
    exact hcalm (c.calm_variant name context default spare)
  | close =>
    rw [List.append_nil]
    unfold Client.close
    split
    · exact h
    · exact h.dispose

end

theorem grounded_begun (s : Settings) {p : Parts} (hp : p.backend.IsHttp) :
    (begun s p).Grounded s.mustSucceedFirst [] ∧ (begun s p).polling.fetched = false := by
  have hnew : (Sync.new p.backend none s.mustSucceedFirst s.failover p.keeping).Grounded
      s.mustSucceedFirst [] := ⟨hp, rfl, nofun, rfl, rfl, rfl, nofun⟩
  obtain ⟨t, tag, hc, heq⟩ :=
    (Sync.new p.backend none s.mustSucceedFirst s.failover p.keeping).calm_restore 0
  have ht := hnew.calm hc
  have hannounced : t.streaming.announced = false := (Bool.or_eq_false_iff.mp ht.announced).2
  unfold begun
  rw [heq]
  exact ⟨⟨ht.isHttp, ht.mustSucceedFirst, nofun, hannounced, ht.ready, ht.readies, nofun⟩, rfl⟩

/-- What is built is what starts with settings that are valid. -/
theorem start_of_build {s : Settings} {i : Identity} {p : Parts}
    {built : Client × Except Failure Unit} (h : build s i p = .ok built) :
    built = start s i p := by
  unfold build at h
  cases hv : s.validate with
  | error f =>
    rw [hv] at h
    cases h
  | ok _ =>
    rw [hv] at h
    simp only [bind, Except.bind, pure, Except.pure] at h
    split at h
    · split at h
      · cases h
      · cases h
        rfl
    · cases h
      rfl

theorem honest_built {s : Settings} {i : Identity} {p : Parts} (hp : p.backend.IsHttp)
    {c : Client} {result : Except Failure Unit} (h : build s i p = .ok (c, result)) :
    c.coordinator.Honest s.mustSucceedFirst (opening s p) := by
  obtain rfl : c = (start s i p).1 := congrArg Prod.fst (start_of_build h)
  let m := Machine.base (begun s p) s.metricsInterval i
  have hstate : m.state = begun s p := Machine.state_base _ _ _
  have honly := Machine.only_base (begun s p) s.metricsInterval i
  obtain ⟨hgrounded, hfetched⟩ := grounded_begun s hp
  rw [← hstate] at hgrounded hfetched
  have htacit : m.Tacit := honly.mono (fun _ hj => hj.2) fun _ => False.elim
  have htoken := (Machine.fresh_base (begun s p) s.metricsInterval i).token
  have hhonest := Coordinator.honest_start hgrounded hfetched honly.loops htacit htoken
    ⟨s.fetchInterval.ticks, s.eager, s.synchronous⟩ s.initialMode
  have hopening : Coordinator.opening m.state ⟨s.fetchInterval.ticks, s.eager, s.synchronous⟩
      s.initialMode = opening s p := by
    rw [hstate]
    unfold opening Settings.initialMode
    cases s.streaming with
    | true => simp [Coordinator.opening]
    | false => simp [Coordinator.opening]
  rw [hopening] at hhonest
  exact hhonest

/-! ### The law -/

/-- Whatever a client over HTTP has lived through. That it is ready was told of once, or not at all.
It is ready only if its server has answered a request, with a success or with word that nothing has
changed, or a state on the stream was accepted; or else if a request has failed, but only where the
failure of the first question is not one of the start. Up to its end it is ready if and only if
something has come that tells of toggles, and every failure that is not handed on does so. -/
theorem readiness_is_owed_to_an_answer_or_a_swallowed_failure {s : Settings} {i : Identity}
    {p : Parts} (hp : p.backend.IsHttp) {c : Client} {history : List Happening}
    (h : Lived s i p c history) :
    c.sync.readies = c.sync.ready.fired.toNat ∧
      (c.sync.ready.fired = true → (∃ x ∈ history, x.IsHydration) ∨
        (s.mustSucceedFirst = false ∧ ∃ x ∈ history, x.IsSwallowed)) ∧
      (c.coordinator.disposed = false →
        (c.sync.ready.fired = true ↔ ∃ x ∈ history, x.tells = true) ∧
        ∀ x ∈ history, x.IsSwallowed → c.sync.ready.fired = true) := by
  have hh : c.coordinator.Honest s.mustSucceedFirst history := by
    induction h with
    | built hb => exact honest_built hp hb
    | step _ hs ih => exact honest_step ih hs
  cases hd : c.coordinator.disposed with
  | true =>
    have hm := hh.disposed hd
    exact ⟨hm.readies, hm.served, nofun⟩
  | false =>
    have hg := (hh.opened hd).state
    have hfired : c.sync.ready.fired = history.any (·.tells) := by
      show c.coordinator.machine.state.ready.fired = _
      rw [hg.ready]
    refine ⟨hg.readies.trans (by rw [hfired]), fun hf => hg.served (hfired.symm.trans hf), ?_⟩
    intro _
    have hiff : c.sync.ready.fired = true ↔ ∃ x ∈ history, x.tells = true := by
      rw [hfired, List.any_eq_true]
    exact ⟨hiff, fun x hx hs => hiff.mpr ⟨x, hx, Happening.tells_of_swallowed hs⟩⟩

/-! ### A server that answers, and one that does not -/

/-- Settings of a client that asks its first question, of a server on its own machine, before its
start is over. -/
def prompt (mustSucceedFirst : Bool) : Settings :=
  { Settings.standard "host-1" "" with
    appName := "billing"
    apiUrl := "http:[::1]"
    metricsInterval := none
    synchronous := true
    mustSucceedFirst }

def promptIdentity : Identity := ⟨"billing", "host-1", "conn-1", clientLabel⟩

/-- A server that answers as many requests as there are replies, and no more. -/
def replying (replies : List Http.Reply) : Parts where
  backend :=
    { Backend.new (replies.map fun r => ⟨(Http.Exchange.answered r).fetched none, 0, false⟩) none
      with
      otherwise := Http.Exchange.unanswered.fetched none
      overHttp := true }
  keeping := .nowhere
  hasListener := false

theorem isHttp_replying (replies : List Http.Reply) : (replying replies).backend.IsHttp := by
  refine ⟨rfl, ?_, ⟨none, .unanswered, rfl⟩⟩
  intro a ha
  obtain ⟨r, _, rfl⟩ := List.mem_map.mp ha
  exact ⟨none, .answered r, rfl⟩

/-- These settings are valid, whatever the client is built over. -/
theorem lived_of_prompt (must : Bool) (p : Parts) :
    Lived (prompt must) promptIdentity p (start (prompt must) promptIdentity p).1
      (opening (prompt must) p) := by
  have hvalid : (prompt must).validate = .ok () := by cases must <;> decide +kernel
  have hcheck : Http.check (prompt must) promptIdentity = .ok () := by
    cases must <;> decide +kernel
  have hbuilt : build (prompt must) promptIdentity p = .ok (start (prompt must) promptIdentity p) := by
    unfold build
    rw [hvalid, hcheck]
    cases p.backend.overHttp <;> rfl
  exact .built hbuilt

theorem lived_prompt (must : Bool) (replies : List Http.Reply) :
    Lived (prompt must) promptIdentity (replying replies)
      (start (prompt must) promptIdentity (replying replies)).1
      (opening (prompt must) (replying replies)) := lived_of_prompt must (replying replies)

def greeting : Http.Reply :=
  ⟨200, some "v1", textBytes "\x7b\"version\":2,\"features\":[]\x7d", false⟩

theorem readiness_is_owed_to_the_first_answer :
    (replying [greeting]).backend.IsHttp ∧
      Lived (prompt true) promptIdentity (replying [greeting])
        (start (prompt true) promptIdentity (replying [greeting])).1
        (opening (prompt true) (replying [greeting])) ∧
      (start (prompt true) promptIdentity (replying [greeting])).1.sync.ready.fired = true ∧
      ∃ x ∈ opening (prompt true) (replying [greeting]), x.IsHydration := by
  have hp := isHttp_replying [greeting]
  have hl := lived_prompt true [greeting]
  obtain ⟨_, howed, hopen⟩ :=
    readiness_is_owed_to_an_answer_or_a_swallowed_failure hp hl
  have hfired : (start (prompt true) promptIdentity (replying [greeting])).1.sync.ready.fired =
      true := by
    refine (hopen (by decide +kernel)).1.mpr ⟨_, List.mem_cons_self, ?_⟩
    decide +kernel
  refine ⟨hp, hl, hfired, ?_⟩
  obtain hyd | ⟨hm, _⟩ := howed hfired
  · exact hyd
  · cases hm

/-- The only request was not answered, and yet the client tells that it is ready. -/
theorem a_client_may_be_ready_though_no_request_was_answered :
    ∃ (s : Settings) (i : Identity) (p : Parts) (c : Client) (history : List Happening),
      p.backend.IsHttp ∧ Lived s i p c history ∧ c.coordinator.disposed = false ∧
      c.sync.ready.fired = true ∧ c.sync.readies = 1 ∧ history ≠ [] ∧
      ∀ x ∈ history, x.IsSwallowed ∧ ¬ x.IsHydration := by
  have hopening : opening (prompt false) (replying []) =
      [.asked ⟨none, false⟩ (.error .requestFailed)] := rfl
  refine ⟨_, _, _, _, _, isHttp_replying [], lived_prompt false [], by decide +kernel,
    by decide +kernel, by decide +kernel, ?_, ?_⟩
  · rw [hopening]
    exact List.cons_ne_nil _ _
  · rw [hopening]
    intro x hx
    rw [List.mem_singleton.mp hx]
    refine ⟨⟨rfl, .requestFailed, rfl, nofun⟩, ?_⟩
    rintro ⟨r, _, f, _, ho⟩
    cases ho

end Client

end ToggleSync
