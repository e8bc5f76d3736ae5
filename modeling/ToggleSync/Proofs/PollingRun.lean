-- The law of polling. A cycle is accepted when it brings a state that can be read, under a tag
-- that the client does not hold yet. After any run of cycles the client holds the tag of the last
-- accepted one, and its toggles, its backups and its news come from the accepted cycles alone.
import ToggleSync.Proofs.SyncLog

namespace ToggleSync

/-! ## Taking a state -/

/-- The toggles after a text was taken. A text that is no state changes nothing. -/
def Collection.after (c : Collection) (text : String) : Collection :=
  match Update.read text with
  | .ok u => u.applyTo c
  | .error _ => c

def isReadable (text : String) : Bool := (Update.read text).isOk

theorem takeState_of_readable (e : Engine) {text : String} (h : isReadable text = true) :
    e.takeState text = .ok { e with snapshot := e.snapshot.after text } := by
  unfold isReadable at h
  unfold Engine.takeState Collection.after
  cases hr : Update.read text with
  | ok u => rfl
  | error x =>
    rw [hr] at h
    cases h

theorem takeState_of_unreadable (e : Engine) {text : String} (h : isReadable text = false) :
    ∃ x, e.takeState text = .error x := by
  unfold isReadable at h
  unfold Engine.takeState
  cases hr : Update.read text with
  | ok u =>
    rw [hr] at h
    cases h
  | error x => exact ⟨x, rfl⟩

/-! ## One cycle -/

/-- The state and the tag that a cycle accepts: the server tells of a change, with a tag that is
neither empty nor the one that was sent, and with a state that is not blank and can be read. -/
def accepted? (sent : Option String) : Except Failure Fetched → Option Backup
  | .ok ⟨true, some state, some tag⟩ =>
    if tag ≠ "" ∧ sent ≠ some tag ∧ isBlankText state = false ∧ isReadable state = true then
      some ⟨state, some tag⟩
    else none
  | _ => none

theorem accepted?_eq_some {sent : Option String} {outcome : Except Failure Fetched} {b : Backup}
    (h : accepted? sent outcome = some b) :
    ∃ state tag, outcome = .ok ⟨true, some state, some tag⟩ ∧ b = ⟨state, some tag⟩ ∧
      tag ≠ "" ∧ sent ≠ some tag ∧ isBlankText state = false ∧ isReadable state = true := by
  unfold accepted? at h
  split at h
  · rename_i state tag
    split at h
    · rename_i hc
      cases h
      exact ⟨state, tag, rfl, rfl, hc⟩
    · cases h
  · cases h

/-- A failure is never accepted, so it does not matter how much of it a cycle hears. -/
theorem accepted?_heard (s : Sync) (q : Polling.Question) (sent : Option String)
    (outcome : Except Failure Fetched) :
    accepted? sent (s.heard q outcome) = accepted? sent outcome := by
  unfold Sync.heard
  split
  · unfold hearFetched
    split
    · rfl
    · rfl
    · split <;> rfl
  · rfl

theorem news?_of_accepted {sent : Option String} {state tag : String} (h1 : tag ≠ "")
    (h2 : sent ≠ some tag) (h3 : isBlankText state = false) :
    Polling.news? sent ⟨true, some state, some tag⟩ = some (state, tag) := by
  simp [Polling.news?, Option.filter_some, h1, h2, h3]

theorem conclude_accepted (p : Polling) (e : Engine) (q : Polling.Question)
    {outcome : Except Failure Fetched} {b : Backup} (h : accepted? q.tag outcome = some b) :
    p.conclude e q outcome =
      ⟨⟨b.tag, true, true⟩, { e with snapshot := e.snapshot.after b.state },
        [.save b, .notice .updated] ++ p.announcement, .ok ()⟩ := by
  obtain ⟨state, tag, rfl, rfl, h1, h2, h3, h4⟩ := accepted?_eq_some h
  simp only [Polling.conclude, news?_of_accepted h1 h2 h3, takeState_of_readable e h4]
  rfl

/-- What there is to read in an answer with news is either accepted or no state. -/
theorem unreadable_of_news {sent : Option String} {f : Fetched} {state tag : String}
    (h : Polling.news? sent f = some (state, tag)) (hn : accepted? sent (.ok f) = none) :
    isReadable state = false := by
  obtain ⟨changed, st, tg⟩ := f
  simp only [Polling.news?, bind, Option.bind_eq_some_iff, Option.filter_eq_some_iff] at h
  obtain ⟨t, ⟨ht, htag⟩, x, ⟨hx, hblank⟩, hif⟩ := h
  subst ht hx
  split at hif
  · rename_i hc
    simp only [Bool.and_eq_true, decide_eq_true_eq] at hc
    cases hif
    obtain ⟨rfl, hsent⟩ := hc
    have hne : tag ≠ "" := by
      rintro rfl
      simp at htag
    have hfull : isBlankText state = false := by simpa using hblank
    cases hr : isReadable state with
    | false => rfl
    | true => simp [accepted?, hne, hsent, hfull, hr] at hn
  · cases hif

/-- Nothing to be seen in the log comes from these effects. -/
def Unseen (es : List Effect) : Prop := ∀ {α : Type} (v : View α), es.flatMap v.shows = []

theorem unseen_error (kind : ErrorKind) (f : Failure) : Unseen [.notice (.error kind f)] := by
  intro α v
  simp [View.shows, v.skips_error]

theorem unseen_announcement (p : Polling) : Unseen p.announcement := by
  intro α v
  unfold Polling.announcement
  split <;> rfl

/-- A cycle that is not accepted holds on to its tag and its toggles. -/
theorem conclude_declined (p : Polling) (e : Engine) (q : Polling.Question)
    {outcome : Except Failure Fetched} (h : accepted? q.tag outcome = none) :
    (p.conclude e q outcome).polling.tag = p.tag ∧ (p.conclude e q outcome).engine = e ∧
      Unseen (p.conclude e q outcome).effects := by
  unfold Polling.conclude
  split
  · exact ⟨rfl, rfl, fun _ => rfl⟩
  · exact ⟨rfl, rfl, unseen_error _ _⟩
  · rename_i f
    split
    · exact ⟨rfl, rfl, unseen_announcement _⟩
    · rename_i state tag hnews
      obtain ⟨x, hx⟩ := takeState_of_unreadable e (unreadable_of_news hnews h)
      rw [hx]
      exact ⟨rfl, rfl, unseen_error _ _⟩

/-! ## Whole cycles -/

/-- A whole cycle: when its question is sent, when it is over, and with what outcome. A cycle that
is called off is one with the outcome `cancelled`. -/
structure Turn where
  asked : Nat
  ended : Nat
  outcome : Except Failure Fetched

/-- The tag that is held after backups were accepted. -/
def heldAfter (held : Option String) (accepted : List Backup) : Option String :=
  (accepted.getLast?.map (·.tag)).getD held

theorem heldAfter_append (held : Option String) (as bs : List Backup) :
    heldAfter (heldAfter held as) bs = heldAfter held (as ++ bs) := by
  unfold heldAfter
  rw [List.getLast?_append]
  cases bs.getLast? <;> rfl

/-- The toggles after backups were taken in order. -/
def Collection.afterAll (c : Collection) (bs : List Backup) : Collection :=
  bs.foldl (fun c b => c.after b.state) c

/-- What polling leaves behind that accepted these backups, in order. -/
structure Polled (s : Sync) (accepted : List Backup) (s' : Sync) : Prop where
  tag : s'.polling.tag = heldAfter s.polling.tag accepted
  snapshot : s'.engine.snapshot = s.engine.snapshot.afterAll accepted
  backups : s'.seen .backups = s.seen .backups ++ accepted
  updates : (s'.seen .updates).length = (s.seen .updates).length + accepted.length

theorem Polled.refl (s : Sync) : Polled s [] s := ⟨rfl, rfl, by simp, rfl⟩

theorem Polled.trans {s t u : Sync} {as bs : List Backup} (h : Polled s as t)
    (h' : Polled t bs u) : Polled s (as ++ bs) u := by
  constructor
  · rw [h'.tag, h.tag, heldAfter_append]
  · rw [h'.snapshot, h.snapshot]
    simp [Collection.afterAll]
  · rw [h'.backups, h.backups, List.append_assoc]
  · rw [h'.updates, h.updates, List.length_append, Nat.add_assoc]

namespace Sync

def cycle (s : Sync) (t : Turn) : Sync × Except Failure Unit :=
  let (s, q, _) := s.ask t.asked
  s.conclude t.ended q t.outcome

/-- The question that a cycle which begins now sends. -/
def question (s : Sync) : Polling.Question := s.polling.ask s.mustSucceedFirst

/-- The end of a cycle takes what is accepted of its outcome, whatever was asked. -/
theorem polled_conclude (s : Sync) (now : Nat) (q : Polling.Question)
    (outcome : Except Failure Fetched) :
    Polled s (accepted? q.tag outcome).toList (s.conclude now q outcome).1 := by
  have hc := concluded s now q outcome
  unfold cycleOf at hc
  cases h : accepted? q.tag outcome with
  | none =>
    obtain ⟨h1, h2, h3⟩ :=
      conclude_declined s.polling s.engine q ((accepted?_heard s q _ outcome).trans h)
    constructor
    · rw [hc.polling, h1]
      rfl
    · rw [hc.engine, h2]
      rfl
    · rw [hc.seen, h3]
      rfl
    · rw [hc.seen, h3]
      simp
  | some b =>
    rw [conclude_accepted s.polling s.engine q ((accepted?_heard s q _ outcome).trans h)] at hc
    have hquiet : Unseen s.polling.announcement := unseen_announcement _
    constructor
    · rw [hc.polling]
      rfl
    · rw [hc.engine]
      rfl
    · rw [hc.seen, List.flatMap_append, hquiet]
      simp [View.backups, View.shows]
    · rw [hc.seen, List.flatMap_append, hquiet]
      simp [View.updates, View.shows]

theorem polled_ask (s : Sync) (now : Nat) : Polled s [] (s.ask now).1 := by
  refine ⟨rfl, rfl, ?_, ?_⟩
  · rw [seen_ask]
    rfl
  · rw [seen_ask]
    simp [View.updates]

theorem polled_cycle (s : Sync) (t : Turn) :
    Polled s (accepted? s.polling.tag t.outcome).toList (s.cycle t).1 := by
  have hend : Polled (s.ask t.asked).1 (accepted? s.polling.tag t.outcome).toList (s.cycle t).1 :=
    polled_conclude _ t.ended s.question t.outcome
  exact (polled_ask s t.asked).trans hend

/-- A cycle sends one question, with the tag that is held. -/
theorem questions_cycle (s : Sync) (t : Turn) :
    (s.cycle t).1.seen .questions = s.seen .questions ++ [s.question] := by
  have hc : Concluded (s.ask t.asked).1 _ (s.cycle t).1 := concluded _ _ s.question t.outcome
  rw [hc.seen, View.questions_shows, seen_ask]
  simp [View.questions, question]

/-- Beginning a cycle whose answer takes no time is a whole cycle. -/
theorem begin_fetch_eq_cycle (s : Sync) (now : Nat) (h : s.backend.next.1.ticks = 0) :
    behaviour.begin now s .fetch =
      ((s.cycle ⟨now, now, s.backend.next.1.outcome⟩).1, none) := by
  have ha : (s.ask now).2.2 = s.backend.next.1 := rfl
  simp only [behaviour, ha, h, if_true]
  rfl

/-- Otherwise the question is sent, and its answer is waited for. -/
theorem begin_fetch_of_wait (s : Sync) (now : Nat) (h : s.backend.next.1.ticks ≠ 0) :
    behaviour.begin now s .fetch =
      ((s.ask now).1, some ⟨s.backend.next.1.ticks, s.backend.next.1.stubborn,
        ⟨s.question, s.backend.next.1.outcome⟩⟩) := by
  have ha : (s.ask now).2.2 = s.backend.next.1 := rfl
  have hq : (s.ask now).2.1 = s.question := rfl
  simp only [behaviour, ha, hq, h, if_false]

/-- Then the beginning and the end make a whole cycle. -/
theorem finish_begin_eq_cycle (s : Sync) (now later : Nat) (cancelled : Bool)
    {w : Wait Asked} (h : (behaviour.begin now s .fetch).2 = some w) :
    behaviour.finish later (behaviour.begin now s .fetch).1 w.pending cancelled =
      (s.cycle ⟨now, later,
        if cancelled then .error .cancelled else s.backend.next.1.outcome⟩).1 := by
  by_cases ht : s.backend.next.1.ticks = 0
  · rw [begin_fetch_eq_cycle s now ht] at h
    cases h
  · rw [begin_fetch_of_wait s now ht] at h ⊢
    cases h
    rfl

end Sync

theorem waitUntil_of_no_loops {σ J P : Type} (b : Behaviour σ J P) (c : Clockwork σ J P)
    (h : c.tasks.loops = []) (ticks : Nat) :
    c.waitUntil b (fun _ => false) ticks = { c with now := c.now + ticks } := by
  have hsettle : c.settle b = c := by
    unfold Clockwork.settle
    rw [h]
    rfl
  have hdue : c.tasks.due? = none := by
    unfold Tasks.due?
    rw [h]
    rfl
  unfold Clockwork.waitUntil
  by_cases ht : ticks = 0
  · simp [ht]
  · simp only [ht, decide_false, Bool.or_false, Bool.false_eq_true, if_false,
      Clockwork.runWithin, hsettle, hdue]
    rw [Nat.max_eq_right (Nat.le_add_right _ _)]

/-- A cycle that is run by itself, while no task has a loop, is a whole cycle too. -/
theorem Machine.runCycle_eq_cycle (m : Machine) (h : m.tasks.loops = [])
    (hc : m.isCancelled Machine.clientToken = false) :
    ∃ t : Turn, t.outcome = m.state.backend.next.1.outcome ∧
      m.runCycle.1.state = (m.state.cycle t).1 ∧ m.runCycle.2 = (m.state.cycle t).2 := by
  refine ⟨⟨m.now, m.now + m.state.backend.next.1.ticks, m.state.backend.next.1.outcome⟩, rfl, ?_⟩
  have hw := waitUntil_of_no_loops Sync.behaviour
    { m with state := (m.state.ask m.now).1 } h m.state.backend.next.1.ticks
  have ha : (m.state.ask m.now).2.2 = m.state.backend.next.1 := rfl
  unfold Machine.runCycle
  simp only [hc, Bool.false_eq_true, if_false, ha, hw]
  exact ⟨rfl, rfl⟩

/-! ## Runs -/

def Sync.runCycles (s : Sync) (turns : List Turn) : Sync :=
  turns.foldl (fun s t => (s.cycle t).1) s

/-- What a run of cycles accepts, in order, from the tag that is held at its start. -/
def acceptedIn (held : Option String) : List Turn → List Backup
  | [] => []
  | t :: ts =>
    (accepted? held t.outcome).toList ++
      acceptedIn (heldAfter held (accepted? held t.outcome).toList) ts

theorem polled_runCycles (s : Sync) (turns : List Turn) :
    Polled s (acceptedIn s.polling.tag turns) (s.runCycles turns) := by
  induction turns generalizing s with
  | nil => exact .refl s
  | cons t ts ih =>
    have hc := Sync.polled_cycle s t
    have hr := ih (s.cycle t).1
    rw [hc.tag] at hr
    exact hc.trans hr

/-- After any run of polling cycles, from any toggles and any tag to begin with, a client holds
the tag of the last cycle that it accepted; its toggles are the accepted states taken in order;
the accepted states and tags are what was handed over to be kept; and it told of an update once for
each. The next cycle sends the tag that is held then, and changes none of this unless it is
accepted. -/
theorem a_run_of_cycles_takes_what_it_accepts (s : Sync) (tag : Option String)
    (turns : List Turn) :
    let start : Sync := { s with polling := .new tag }
    let held := tag.filter (!·.isEmpty)
    let accepted := acceptedIn held turns
    let s' := start.runCycles turns
    s'.polling.tag = heldAfter held accepted ∧
      s'.engine.snapshot = s.engine.snapshot.afterAll accepted ∧
      s'.seen .backups = s.seen .backups ++ accepted ∧
      (s'.seen .updates).length = (s.seen .updates).length + accepted.length ∧
      ∀ next : Turn,
        (∃ q : Polling.Question, q.tag = s'.polling.tag ∧
          (s'.cycle next).1.seen .questions = s'.seen .questions ++ [q]) ∧
        (accepted? s'.polling.tag next.outcome = none →
          (s'.cycle next).1.polling.tag = s'.polling.tag ∧
          (s'.cycle next).1.engine.snapshot = s'.engine.snapshot ∧
          (s'.cycle next).1.seen .backups = s'.seen .backups ∧
          ((s'.cycle next).1.seen .updates).length = (s'.seen .updates).length) := by
  intro start held accepted s'
  have hr : Polled start accepted s' := polled_runCycles start turns
  refine ⟨hr.tag, hr.snapshot, hr.backups, hr.updates, ?_⟩
  intro next
  refine ⟨⟨s'.question, rfl, s'.questions_cycle next⟩, ?_⟩
  intro hn
  have hc := s'.polled_cycle next
  rw [hn] at hc
  exact ⟨hc.tag, hc.snapshot, by simpa using hc.backups, by simpa using hc.updates⟩

end ToggleSync
