-- Requests for toggles that fail. Over HTTP the one who asks tells of a failure that it need not
-- hand on, and the cycle tells of one that is handed on to it. So each failed request is told of
-- once, whichever of the two it is, and only before the first success may it end a cycle.
import Mathlib.Data.List.Induction
import ToggleSync.Http.Exchange
import ToggleSync.Proofs.PollingRun

namespace ToggleSync

/-! ## What becomes of a request -/

namespace Http

/-- A request fails: no answer comes, its tag cannot be sent, its status is neither that of a
success nor that nothing has changed, or the toggles break off. -/
def Exchange.Fails (tag : Option String) : Exchange → Prop
  | .unanswered => True
  | .answered r =>
    tag.all isValue = false ∨ r.isUnchanged = false ∧ (r.isSuccess = false ∨ r.truncated = true)

theorem Reply.fetched_of_fails {r : Reply} (hu : r.isUnchanged = false)
    (h : r.isSuccess = false ∨ r.truncated = true) :
    ∃ f, r.fetched = .error f ∧ f ≠ .cancelled := by
  by_cases hs : r.isSuccess = true
  · have ht : r.truncated = true := by simpa [hs] using h
    exact ⟨.requestFailed, by simp [fetched, hu, hs, text?, ht], by simp⟩
  · exact ⟨r.failure, by simp [fetched, hu, hs], by simp [failure]⟩

theorem Reply.fetched_of_not_fails {r : Reply}
    (h : r.isUnchanged = false → r.isSuccess = true ∧ r.truncated = false) :
    ∃ f, r.fetched = .ok f := by
  by_cases hu : r.isUnchanged = true
  · exact ⟨.unchanged, by simp [fetched, hu]⟩
  · obtain ⟨hs, ht⟩ := h (by simpa using hu)
    exact ⟨_, by simp [fetched, hu, hs, text?, ht]; rfl⟩

theorem Exchange.fetched_of_fails {tag : Option String} {e : Exchange} (h : e.Fails tag) :
    ∃ f, e.fetched tag = .error f ∧ f ≠ .cancelled := by
  rcases e with _ | r
  · exact ⟨.requestFailed, rfl, by simp⟩
  · rcases h with htag | ⟨hu, hr⟩
    · exact ⟨.requestFailed, by simp [fetched, htag], by simp⟩
    · by_cases htag : tag.all isValue = true
      · simpa [fetched, htag] using Reply.fetched_of_fails hu hr
      · exact ⟨.requestFailed, by simp [fetched, htag], by simp⟩

theorem Exchange.fetched_of_not_fails {tag : Option String} {e : Exchange} (h : ¬ e.Fails tag) :
    ∃ f, e.fetched tag = .ok f := by
  rcases e with _ | r
  · exact absurd trivial h
  · simp only [Fails, not_or, not_and, Bool.not_eq_false, Bool.not_eq_true] at h
    simpa [fetched, h.1] using Reply.fetched_of_not_fails h.2

/-- What becomes of a request for toggles: an exchange, unless it is called off before. -/
inductive Fate
  | exchange (e : Exchange)
  | calledOff
  deriving DecidableEq

namespace Fate

def outcome (tag : Option String) : Fate → Except Failure Fetched
  | exchange e => e.fetched tag
  | calledOff => .error .cancelled

def Fails (tag : Option String) : Fate → Prop
  | exchange e => e.Fails tag
  | calledOff => False

def Succeeds (tag : Option String) : Fate → Prop
  | exchange e => ¬ e.Fails tag
  | calledOff => False

/-- A request is called off, or it fails, or it succeeds. -/
theorem outcome_cases (tag : Option String) (x : Fate) :
    x = .calledOff ∨ (x.Fails tag ∧ ∃ f, x.outcome tag = .error f ∧ f ≠ .cancelled) ∨
      (x.Succeeds tag ∧ ∃ f, x.outcome tag = .ok f) := by
  rcases x with e | _
  · by_cases h : e.Fails tag
    · exact .inr (.inl ⟨h, Exchange.fetched_of_fails h⟩)
    · exact .inr (.inr ⟨h, Exchange.fetched_of_not_fails h⟩)
  · exact .inl rfl

theorem not_succeeds_of_fails {tag : Option String} {x : Fate} (h : x.Fails tag) :
    ¬ x.Succeeds tag := by
  rcases x with e | _
  · exact fun hs => hs h
  · exact h.elim

end Fate

/-- One request: when it is sent, when it is over, and what becomes of it. -/
structure Round where
  asked : Nat
  ended : Nat
  fate : Fate

end Http

/-! ## Failures that are told of -/

def Entry.clientFailure? : Entry → Option Failure
  | .notice (.error .client f) => some f
  | _ => none

def Effect.clientFailure? : Effect → Option Failure
  | .notice (.error .client f) => some f
  | _ => none

namespace Sync

/-- The failures of talking to the server that were told of, in order. -/
def clientFailures (s : Sync) : List Failure := s.log.filterMap (·.2.clientFailure?)

theorem clientFailures_note (s : Sync) (now : Nat) (e : Entry) :
    (s.note now e).clientFailures = s.clientFailures ++ e.clientFailure?.toList := by
  unfold clientFailures note
  rw [List.filterMap_append]
  cases h : e.clientFailure? <;> simp [h]

theorem clientFailures_save (s : Sync) (now : Nat) (b : Backup) :
    (s.save now b).clientFailures = s.clientFailures := by
  unfold save
  simp only [foldl_noteWrite]
  split
  · simp [clientFailures_note, Entry.clientFailure?]
  · split <;> simp [raise, clientFailures, note, Entry.clientFailure?]

theorem clientFailures_fireReady (s : Sync) (now : Nat) :
    (s.fireReady now).clientFailures = s.clientFailures := by
  unfold fireReady
  split
  · simp [raise, clientFailures, note, Entry.clientFailure?]
  · rfl

theorem clientFailures_request (s : Sync) (mode : Mode) :
    (s.request mode).clientFailures = s.clientFailures := by
  unfold request
  split <;> rfl

theorem clientFailures_perform (now : Nat) (s : Sync) (e : Effect) :
    (perform now s e).clientFailures = s.clientFailures ++ e.clientFailure?.toList := by
  cases e with
  | notice n =>
    rw [perform, raise, clientFailures_note]
    rcases n with _ | _ | _ | ⟨kind, f⟩ | _
    all_goals try rfl
    cases kind <;> rfl
  | save b => simp [perform, clientFailures_save, Effect.clientFailure?]
  | announce =>
    simp [perform, clientFailures_fireReady, clientFailures_note, Entry.clientFailure?,
      Effect.clientFailure?]
  | request mode => simp [perform, clientFailures_request, Effect.clientFailure?]

theorem clientFailures_performAll (now : Nat) (es : List Effect) (s : Sync) :
    (es.foldl (perform now) s).clientFailures =
      s.clientFailures ++ es.filterMap Effect.clientFailure? := by
  induction es generalizing s with
  | nil => simp
  | cons e es ih =>
    rw [List.foldl_cons, ih, clientFailures_perform, List.filterMap_cons, List.append_assoc]
    cases e.clientFailure? <;> rfl

end Sync

/-! ## One cycle -/

/-- The end of a cycle that hears of a failure. -/
theorem conclude_failure (p : Polling) (e : Engine) (q : Polling.Question) {f : Failure}
    (h : f ≠ .cancelled) :
    p.conclude e q (.error f) = ⟨p, e, [.notice (.error .client f)],
      if q.mustSucceed then .error (.reported f) else .ok ()⟩ := by
  unfold Polling.conclude
  split
  · rename_i heq
    cases heq
    exact absurd rfl h
  · rename_i heq
    cases heq
    rfl
  · rename_i heq
    cases heq

theorem hearFetched_failure (mustSucceed : Bool) {f : Failure} (h : f ≠ .cancelled) :
    hearFetched mustSucceed (.error f) =
      if mustSucceed then (.error f, none) else (.ok .unchanged, some f) := by
  cases f <;> first | rfl | exact absurd rfl h

theorem filterMap_announcement (p : Polling) :
    p.announcement.filterMap Effect.clientFailure? = [] := by
  unfold Polling.announcement
  split <;> rfl

/-- A cycle that hears of no failure has none to tell of, and the server has answered. -/
theorem conclude_fetched (p : Polling) (e : Engine) (q : Polling.Question) (f : Fetched) :
    (p.conclude e q (.ok f)).effects.filterMap Effect.clientFailure? = [] ∧
      (p.conclude e q (.ok f)).polling.fetched = true := by
  unfold Polling.conclude
  simp only
  split
  · exact ⟨filterMap_announcement _, rfl⟩
  · split
    · exact ⟨rfl, rfl⟩
    · refine ⟨?_, rfl⟩
      rw [List.filterMap_append, filterMap_announcement]
      rfl

/-- A cycle that hears that nothing has changed is over. -/
theorem conclude_unchanged (p : Polling) (e : Engine) (q : Polling.Question) :
    p.conclude e q (.ok .unchanged) =
      ⟨{ p with fetched := true, announced := true }, e, p.announcement, .ok ()⟩ := rfl

namespace Sync

/-- A cycle over HTTP. -/
def fetch (s : Sync) (r : Http.Round) : Sync × Except Failure Unit :=
  s.cycle ⟨r.asked, r.ended, r.fate.outcome s.polling.tag⟩

/-- What the one who asks hands on to the cycle, and the failure that it tells of instead. -/
def handedOn (s : Sync) (r : Http.Round) : Except Failure Fetched × Option Failure :=
  hearFetched s.question.mustSucceed (r.fate.outcome s.polling.tag)

/-- The cycle over what is handed on. -/
def fetchCycle (s : Sync) (r : Http.Round) : Polling.Cycle :=
  s.polling.conclude s.engine s.question (s.handedOn r).1

/-- What a cycle over HTTP does: the one who asks tells of what it does not hand on, and the cycle
comes to what it comes to. -/
structure Rounded (s : Sync) (told : Option Failure) (c : Polling.Cycle)
    (s' : Sync × Except Failure Unit) : Prop where
  polling : s'.1.polling = c.polling
  told : s'.1.clientFailures =
    s.clientFailures ++ told.toList ++ c.effects.filterMap Effect.clientFailure?
  result : s'.2 = c.result
  overHttp : s'.1.backend.overHttp = true
  mustSucceedFirst : s'.1.mustSucceedFirst = s.mustSucceedFirst

theorem clientFailures_ask (s : Sync) (now : Nat) :
    (s.ask now).1.clientFailures = s.clientFailures := by
  unfold ask
  rw [clientFailures_note]
  exact List.append_nil _

theorem overHttp_ask (s : Sync) (now : Nat) :
    (s.ask now).1.backend.overHttp = s.backend.overHttp := by
  simp only [ask, note, Backend.next]
  split <;> rfl

theorem rounded_conclude {s : Sync} (h : s.backend.overHttp = true) (now : Nat)
    (q : Polling.Question) (outcome : Except Failure Fetched) :
    Rounded s (hearFetched q.mustSucceed outcome).2
      (s.polling.conclude s.engine q (hearFetched q.mustSucceed outcome).1)
      (s.conclude now q outcome) := by
  have hp := sameParts_hear s now q outcome
  have hheard : s.heard q outcome = (hearFetched q.mustSucceed outcome).1 := by simp [heard, h]
  have htold : (s.hear now q outcome).1.clientFailures =
      s.clientFailures ++ (hearFetched q.mustSucceed outcome).2.toList := by
    simp only [hear, h, if_true]
    split
    · rename_i heq
      simp [heq, raise, clientFailures_note, Entry.clientFailure?]
    · rename_i heq
      simp [heq]
  unfold conclude
  simp only [hear_heard, hheard, hp.polling, hp.engine]
  constructor
  · exact (sameParts_performAll now _ _).polling
  · rw [clientFailures_performAll, ← htold]
    rfl
  · rfl
  · rw [(sameParts_performAll now _ _).backend]
    exact (congrArg Backend.overHttp hp.backend).trans h
  · rw [(sameParts_performAll now _ _).mustSucceedFirst]
    exact hp.mustSucceedFirst

theorem rounded_fetch {s : Sync} (h : s.backend.overHttp = true) (r : Http.Round) :
    Rounded s (s.handedOn r).2 (s.fetchCycle r) (s.fetch r) := by
  have hr := rounded_conclude ((s.overHttp_ask r.asked).trans h) r.ended s.question
    (r.fate.outcome s.polling.tag)
  exact ⟨hr.polling, by rw [← s.clientFailures_ask r.asked]; exact hr.told, hr.result, hr.overHttp,
    hr.mustSucceedFirst⟩

/-- A request that is called off is told of by no one. -/
theorem fetch_of_calledOff {s : Sync} (h : s.backend.overHttp = true) {r : Http.Round}
    (hr : r.fate = .calledOff) :
    (s.fetch r).1.clientFailures = s.clientFailures ∧ (s.fetch r).2 = .error .cancelled ∧
      (s.fetch r).1.polling = s.polling := by
  have hround := rounded_fetch h r
  have hheard : s.handedOn r = (.error .cancelled, none) := by
    rw [handedOn, hr]
    rfl
  have hcycle : s.fetchCycle r = ⟨s.polling, s.engine, [], .error .cancelled⟩ := by
    rw [fetchCycle, hheard]
    rfl
  rw [hheard, hcycle] at hround
  exact ⟨by simpa using hround.told, hround.result, hround.polling⟩

/-- A request that fails is told of once: by the cycle where the failure is handed on to it, and
otherwise by the one who asks. -/
theorem fetch_of_failure {s : Sync} (h : s.backend.overHttp = true) {r : Http.Round} {f : Failure}
    (hr : r.fate.outcome s.polling.tag = .error f) (hf : f ≠ .cancelled) :
    (s.fetch r).1.clientFailures = s.clientFailures ++ [f] ∧
      (s.fetch r).2 = (if s.question.mustSucceed then .error (.reported f) else .ok ()) ∧
      (s.fetch r).1.polling.fetched = !s.question.mustSucceed := by
  have hround := rounded_fetch h r
  have hheard := hearFetched_failure s.question.mustSucceed hf
  rw [← hr] at hheard
  by_cases hmust : s.question.mustSucceed = true
  · have hhanded : s.handedOn r = (.error f, none) := by
      rw [handedOn, hheard, hmust, if_pos rfl, hr]
    rw [fetchCycle, hhanded, conclude_failure _ _ _ hf] at hround
    have hnot : s.polling.fetched = false := by
      simp only [question, Polling.ask, Bool.and_eq_true, Bool.not_eq_true'] at hmust
      exact hmust.2
    refine ⟨?_, hround.result, ?_⟩
    · rw [hround.told]
      simp [Effect.clientFailure?]
    · rw [hround.polling, hmust, hnot]
      rfl
  · have hhanded : s.handedOn r = (.ok .unchanged, some f) := by
      rw [handedOn, hheard, if_neg hmust]
    rw [fetchCycle, hhanded, conclude_unchanged] at hround
    refine ⟨?_, ?_, ?_⟩
    · rw [hround.told, filterMap_announcement]
      simp
    · rw [hround.result, if_neg hmust]
    · rw [hround.polling]
      simp [hmust]

/-- A request that succeeds is told of by no one, and the server has answered. -/
theorem fetch_of_fetched {s : Sync} (h : s.backend.overHttp = true) {r : Http.Round} {f : Fetched}
    (hr : r.fate.outcome s.polling.tag = .ok f) :
    (s.fetch r).1.clientFailures = s.clientFailures ∧
      (s.fetch r).1.polling.fetched = true := by
  have hround := rounded_fetch h r
  have hhanded : s.handedOn r = (.ok f, none) := by
    rw [handedOn, hr]
    rfl
  have hcycle := conclude_fetched s.polling s.engine s.question f
  rw [fetchCycle, hhanded] at hround
  refine ⟨?_, ?_⟩
  · rw [hround.told, hcycle.1]
    simp
  · rw [hround.polling]
    exact hcycle.2

/-- Cycles that bring nothing leave the tag, the toggles, the backups and the news alone. -/
theorem untouched_fetch (s : Sync) {r : Http.Round} {f : Failure}
    (hr : r.fate.outcome s.polling.tag = .error f) : Polled s [] (s.fetch r).1 := by
  have hp := s.polled_cycle ⟨r.asked, r.ended, r.fate.outcome s.polling.tag⟩
  have hnone : accepted? s.polling.tag (r.fate.outcome s.polling.tag) = none := by
    rw [hr]
    rfl
  rw [hnone] at hp
  exact hp

/-! ## Runs -/

def fetchAll (s : Sync) (rounds : List Http.Round) : Sync :=
  rounds.foldl (fun s r => (s.fetch r).1) s

/-- A request of the run has succeeded, with the tag that was held then. -/
def Answered (s : Sync) (rounds : List Http.Round) : Prop :=
  ∃ before r after, rounds = before ++ r :: after ∧
    r.fate.Succeeds (s.fetchAll before).polling.tag

theorem fetchAll_snoc (s : Sync) (rounds : List Http.Round) (r : Http.Round) :
    s.fetchAll (rounds ++ [r]) = ((s.fetchAll rounds).fetch r).1 := by
  simp [fetchAll]

theorem answered_snoc (s : Sync) (rounds : List Http.Round) (r : Http.Round) :
    s.Answered (rounds ++ [r]) ↔
      s.Answered rounds ∨ r.fate.Succeeds (s.fetchAll rounds).polling.tag := by
  constructor
  · rintro ⟨before, x, after, heq, hx⟩
    rcases List.eq_nil_or_concat after with rfl | ⟨rest, y, rfl⟩
    · obtain ⟨rfl, hlast⟩ := List.append_inj' heq rfl
      cases hlast
      exact Or.inr hx
    · have heq' : rounds ++ [r] = (before ++ x :: rest) ++ [y] := by simpa using heq
      obtain ⟨rfl, -⟩ := List.append_inj' heq' rfl
      exact Or.inl ⟨before, x, rest, rfl, hx⟩
  · rintro (⟨before, x, after, rfl, hx⟩ | hr)
    · exact ⟨before, x, after ++ [r], by simp, hx⟩
    · exact ⟨rounds, r, [], rfl, hr⟩

/-- What a run of cycles knows: where the first question must succeed, whether a request has. -/
structure Knows (start : Sync) (rounds : List Http.Round) (s : Sync) : Prop where
  overHttp : s.backend.overHttp = true
  mustSucceedFirst : s.mustSucceedFirst = start.mustSucceedFirst
  fetched : start.mustSucceedFirst = true →
    (s.polling.fetched = true ↔ start.Answered rounds)

/-- The next failure may end a cycle exactly where none has succeeded before. -/
theorem Knows.mustSucceed {start s : Sync} {rounds : List Http.Round} (h : Knows start rounds s) :
    s.question.mustSucceed = true ↔ start.mustSucceedFirst = true ∧ ¬ start.Answered rounds := by
  simp only [question, Polling.ask, h.mustSucceedFirst, Bool.and_eq_true, Bool.not_eq_true']
  constructor
  · rintro ⟨hfirst, hf⟩
    exact ⟨hfirst, fun ha => by simp [(h.fetched hfirst).mpr ha] at hf⟩
  · rintro ⟨hfirst, hna⟩
    exact ⟨hfirst, by simpa using mt (h.fetched hfirst).mp hna⟩

theorem Knows.snoc {start s : Sync} {rounds : List Http.Round} (h : Knows start rounds s)
    (hs : s = start.fetchAll rounds) (r : Http.Round) :
    Knows start (rounds ++ [r]) (s.fetch r).1 := by
  have hround := rounded_fetch h.overHttp r
  refine ⟨hround.overHttp, hround.mustSucceedFirst.trans h.mustSucceedFirst, ?_⟩
  intro hfirst
  rw [answered_snoc, ← hs, ← h.fetched hfirst]
  rcases r.fate.outcome_cases s.polling.tag with hoff | ⟨hfails, f, hout, hf⟩ | ⟨hgood, f, hout⟩
  · have hstill := (fetch_of_calledOff h.overHttp hoff).2.2
    simp [hstill, hoff, Http.Fate.Succeeds]
  · have hno := Http.Fate.not_succeeds_of_fails hfails
    have hstill := (fetch_of_failure h.overHttp hout hf).2.2
    rw [hstill]
    simp [hno, question, Polling.ask, h.mustSucceedFirst, hfirst]
  · have hnow := (fetch_of_fetched h.overHttp hout).2
    simp [hnow, hgood]

theorem knows_fetchAll {start : Sync} (h : start.backend.overHttp = true)
    (hnew : start.polling.fetched = false) (rounds : List Http.Round) :
    Knows start rounds (start.fetchAll rounds) := by
  induction rounds using List.reverseRecOn with
  | nil =>
    refine ⟨h, rfl, fun _ => ?_⟩
    have hnone : ¬ start.Answered [] := by
      rintro ⟨before, r, after, heq, -⟩
      simp at heq
    simp [fetchAll, hnew, hnone]
  | append_singleton rounds r ih =>
    rw [fetchAll_snoc]
    exact ih.snoc rfl r

end Sync

/-! ## The law -/

/-- A client over HTTP with any toggles and any tag to begin with, whether or not its first question
must succeed, after any requests whatever became of them. If the next request fails, this is told of
once; and the cycle hands the failure on, as one that was told of, exactly if the first question must
succeed and no request has succeeded before, and otherwise is well. If the next request succeeds or is
called off, nothing of the kind is told of; and one that is called off ends its cycle as such. A
request that fails or is called off leaves the tag, the toggles, the backups and the news alone. -/
theorem a_failed_request_is_told_of_once (s : Sync) (tag : Option String) (mustSucceedFirst : Bool)
    (rounds : List Http.Round) (next : Http.Round) :
    let start : Sync := { s with
      polling := .new tag, mustSucceedFirst, backend := { s.backend with overHttp := true } }
    let before := start.fetchAll rounds
    let after := (before.fetch next).1
    let result := (before.fetch next).2
    let held := before.polling.tag
    (next.fate.Fails held →
      ∃ f, next.fate.outcome held = .error f ∧
        after.clientFailures = before.clientFailures ++ [f] ∧
        (mustSucceedFirst = true ∧ ¬ start.Answered rounds → result = .error (.reported f)) ∧
        (¬ (mustSucceedFirst = true ∧ ¬ start.Answered rounds) → result = .ok ())) ∧
    (¬ next.fate.Fails held → after.clientFailures = before.clientFailures) ∧
    (next.fate = .calledOff → result = .error .cancelled) ∧
    (next.fate.Fails held ∨ next.fate = .calledOff →
      after.polling.tag = held ∧ after.engine.snapshot = before.engine.snapshot ∧
        after.seen .backups = before.seen .backups ∧
        (after.seen .updates).length = (before.seen .updates).length) := by
  intro start before after result held
  have hknows : Sync.Knows start rounds before := Sync.knows_fetchAll rfl rfl rounds
  have huntouched : ∀ {f : Failure}, next.fate.outcome held = .error f →
      after.polling.tag = held ∧ after.engine.snapshot = before.engine.snapshot ∧
        after.seen .backups = before.seen .backups ∧
        (after.seen .updates).length = (before.seen .updates).length := by
    intro f hf
    have hp := before.untouched_fetch hf
    exact ⟨hp.tag, hp.snapshot, by simpa using hp.backups, by simpa using hp.updates⟩
  rcases next.fate.outcome_cases held with hoff | ⟨hfails, f, hout, hf⟩ | ⟨hgood, f, hout⟩
  · obtain ⟨htold, hresult, -⟩ := Sync.fetch_of_calledOff hknows.overHttp hoff
    have hnot : ¬ next.fate.Fails held := by
      rw [hoff]
      exact id
    exact ⟨fun h => absurd h hnot, fun _ => htold, fun _ => hresult,
      fun _ => huntouched (f := .cancelled) (by rw [hoff]; rfl)⟩
  · obtain ⟨htold, hresult, -⟩ := Sync.fetch_of_failure hknows.overHttp hout hf
    have hnot : next.fate ≠ .calledOff := by
      intro hoff
      rw [hoff] at hfails
      exact hfails
    refine ⟨fun _ => ⟨f, hout, htold, ?_, ?_⟩, fun h => absurd hfails h,
      fun h => absurd h hnot, fun _ => huntouched hout⟩
    · intro hfirst
      exact hresult.trans (if_pos (hknows.mustSucceed.mpr hfirst))
    · intro hnotFirst
      exact hresult.trans (if_neg (mt hknows.mustSucceed.mp hnotFirst))
  · have htold := (Sync.fetch_of_fetched hknows.overHttp hout).1
    have hnot : ¬ next.fate.Fails held := fun h => Http.Fate.not_succeeds_of_fails h hgood
    have hnotOff : next.fate ≠ .calledOff := by
      intro hoff
      rw [hoff] at hgood
      exact hgood
    exact ⟨fun h => absurd h hnot, fun _ => htold, fun h => absurd h hnotOff,
      fun h => (h.elim hnot hnotOff).elim⟩

/-- An outage ends the first cycle of a client that must have an answer to begin with, and none
after an answer. Either way it is told of. -/
theorem an_outage_is_told_of_once :
    let client : Sync := .new (.new [] none) none true .standard .nowhere
    let s : Sync := { client with backend := { client.backend with overHttp := true } }
    let outage : Http.Round := ⟨1, 1, .exchange .unanswered⟩
    let answer : Http.Round := ⟨0, 0, .exchange (.answered ⟨304, none, [], false⟩)⟩
    (s.fetch outage).1.clientFailures = [.requestFailed] ∧
      (s.fetch outage).2 = .error (.reported .requestFailed) ∧
      ((s.fetchAll [answer]).fetch outage).2 = .ok () := by
  intro client s outage answer
  have hnone : ¬ s.Answered [] := by
    rintro ⟨before, r, after, heq, -⟩
    simp at heq
  have hanswered : s.Answered [answer] := by
    refine ⟨[], answer, [], rfl, ?_⟩
    rintro (htag | ⟨hunchanged, -⟩)
    · cases htag
    · cases hunchanged
  obtain ⟨first, -⟩ := a_failed_request_is_told_of_once client none true [] outage
  obtain ⟨f, hf, htold, hresult, -⟩ := first trivial
  cases hf
  obtain ⟨second, -⟩ := a_failed_request_is_told_of_once client none true [answer] outage
  obtain ⟨f, hf, -, -, hwell⟩ := second trivial
  exact ⟨htold, hresult ⟨rfl, hnone⟩, hwell fun h => h.2 hanswered⟩

end ToggleSync
