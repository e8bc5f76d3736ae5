-- One attempt of a link to connect to its stream: it is refused, or it hands on messages up to the
-- first that is answered with a wish to reconnect; and what is said of it, from the first callback
-- to the last.
import ToggleSync.Proofs.StreamBrackets

namespace ToggleSync.Http

variable {σ : Type}

/-! ## Attempts -/

/-- How an open stream ends by itself. -/
inductive Ending
  | clean
  | broken (failure : Failure)
  deriving DecidableEq, Repr

/-- What an attempt to connect meets: it is refused, or a stream opens and brings messages. Without
an ending the stream is still open when one stops to look. -/
inductive Attempt
  | refused (failure : Failure)
  | opened (messages : List EventStream.Event) (ending : Option Ending)
  deriving DecidableEq, Repr

def Ending.news : Ending → Link.News
  | .clean => .ended
  | .broken f => .broken f

namespace Attempt

def messages : Attempt → List EventStream.Event
  | .refused _ => []
  | .opened messages _ => messages

def news : Attempt → List Link.News
  | .refused f => [.refused f]
  | .opened messages ending =>
    .opened :: messages.map .message ++ (ending.map (·.news)).toList

/-- What an attempt comes to. -/
inductive Outcome
  | refused (failure : Failure)
  | clean
  | reconnect
  | broken (failure : Failure)
  deriving DecidableEq, Repr

def Outcome.failure? : Outcome → Option Failure
  | .refused f => some f
  | .broken f => some f
  | _ => none

end Attempt

def Ending.outcome : Ending → Attempt.Outcome
  | .clean => .clean
  | .broken f => .broken f

/-- Whatever a server answers, it is one of the attempts. -/
theorem exists_attempt (x : Exchange) (staysOpen : Bool) :
    ∃ a : Attempt, a.news = x.news staysOpen := by
  cases x with
  | unanswered => exact ⟨.refused .requestFailed, rfl⟩
  | answered r =>
    by_cases hr : r.isSuccess
    · cases hf : (EventStream.read r.body).2 with
      | some flaw =>
        refine ⟨.opened (EventStream.read r.body).1
          (some (.broken (.stream ("UTF8 error: " ++ flaw.message)))), ?_⟩
        simp [Attempt.news, Exchange.news, Reply.news, hr, hf, Ending.news]
      | none =>
        refine ⟨.opened (EventStream.read r.body).1 (if staysOpen then none else
          some (if r.truncated then .broken brokenBody else .clean)), ?_⟩
        cases staysOpen <;> cases ht : r.truncated <;>
          simp [Attempt.news, Exchange.news, Reply.news, hr, hf, ht, Ending.news]
    · exact ⟨.refused r.failure, by simp [Attempt.news, Exchange.news, Reply.news, hr]⟩

/-! ## Episodes -/

/-- An attempt that was made, and the messages that were handed on of it, each with its answer. -/
structure Episode where
  attempt : Attempt
  handed : List (EventStream.Event × Control)
  deriving DecidableEq, Repr

/-- The messages that are handed on are the first of those that came, up to the first that is
answered with a wish to reconnect. -/
structure Handed (messages : List EventStream.Event)
    (handed : List (EventStream.Event × Control)) : Prop where
  inOrder : handed.map Prod.fst <+: messages
  patient : ∀ m ∈ handed.dropLast, m.2 = .goOn
  complete : (∀ m ∈ handed, m.2 = .goOn) → handed.map Prod.fst = messages

theorem Handed.nil : Handed [] [] := ⟨List.prefix_refl _, by simp, fun _ => rfl⟩

theorem Handed.goOn {messages : List EventStream.Event}
    {handed : List (EventStream.Event × Control)} (hh : Handed messages handed)
    (e : EventStream.Event) : Handed (e :: messages) ((e, .goOn) :: handed) where
  inOrder := (List.prefix_cons_inj e).mpr hh.inOrder
  patient := by
    intro m hm
    cases handed with
    | nil => simp at hm
    | cons x xs =>
      rcases List.mem_cons.mp hm with rfl | hm
      · rfl
      · exact hh.patient m hm
  complete := by
    intro hall
    rw [List.map_cons, hh.complete fun m hm => hall m (List.mem_cons_of_mem _ hm)]

theorem Handed.reconnect (e : EventStream.Event) (messages : List EventStream.Event) :
    Handed (e :: messages) [(e, .reconnect)] where
  inOrder := (List.prefix_cons_inj e).mpr List.nil_prefix
  patient := by simp
  complete := by simp

namespace Episode

/-- A message was answered with a wish to reconnect. -/
def asked (e : Episode) : Bool := e.handed.any (·.2 == .reconnect)

/-- What the attempt came to, none if its stream is still open. -/
def outcome? (e : Episode) : Option Attempt.Outcome :=
  match e.attempt with
  | .refused f => some (.refused f)
  | .opened _ ending => if e.asked then some .reconnect else ending.map (·.outcome)

@[simp] theorem outcome?_nil (messages : List EventStream.Event) (ending : Option Ending) :
    outcome? ⟨.opened messages ending, []⟩ = ending.map (·.outcome) := rfl

theorem outcome?_goOn (e : EventStream.Event) (messages messages' : List EventStream.Event)
    (ending : Option Ending) (handed : List (EventStream.Event × Control)) :
    outcome? ⟨.opened messages ending, (e, .goOn) :: handed⟩ =
      outcome? ⟨.opened messages' ending, handed⟩ := rfl

def failure? (e : Episode) : Option Failure := e.outcome?.bind (·.failure?)

/-- What is said at the end of the attempt. -/
def parted (e : Episode) : List Callback :=
  match e.outcome? with
  | none => []
  | some o => Line.parting true o.failure?

/-- All that is said of the attempt. One that is refused is told of as a close if the link counted
as connected still. -/
def calls (connected : Bool) (e : Episode) : List Callback :=
  match e.attempt with
  | .refused f => Line.parting connected (some f)
  | .opened _ _ => .opened :: e.handed.map (fun m => .message m.1) ++ e.parted

end Episode

/-- All that is said of attempts, of which only the first may find the link connected. -/
def callsFrom (connected : Bool) : List Episode → List Callback
  | [] => []
  | e :: es => e.calls connected ++ es.flatMap (·.calls false)

/-! ## A link and its attempts -/

/-- A link from its start: what it said and how that was answered, the attempts that it made, and
the waits that it began. -/
structure Trail (σ : Type) where
  link : Link
  state : σ
  told : List (Callback × Control)
  episodes : List Episode
  waits : List Span

/-- How long the link waits, if it does. -/
def Link.pause? (l : Link) : Option Span :=
  match l.phase with
  | .waiting delay => some delay
  | _ => none

/-- The message that was answered, with its answer. -/
def answered? : Callback × Control → Option (EventStream.Event × Control)
  | (.message e, c) => some (e, c)
  | _ => none

namespace Trail

/-- Listens, and writes down what it is told and how it answers. -/
def noting (h : Listener σ) : Listener (σ × List (Callback × Control)) := fun s c =>
  let r := h s.1 c
  ((r.1, s.2 ++ [(c, r.2)]), r.2)

def begin (l : Link) (s : σ) : Trail σ := ⟨l, s, [], [], []⟩

/-- Makes one attempt, if the link has one to make. -/
def attempt (h : Listener σ) (t : Trail σ) (a : Attempt) : Trail σ :=
  if t.link.isTrying then
    let (link, state, told) := t.link.resume.hearAll (noting h) (t.state, t.told) a.news
    let handed := (told.drop t.told.length).filterMap answered?
    ⟨link, state, told, t.episodes ++ [⟨a, handed⟩], t.waits ++ link.pause?.toList⟩
  else t

def attemptAll (h : Listener σ) (t : Trail σ) (attempts : List Attempt) : Trail σ :=
  attempts.foldl (attempt h) t

end Trail

def Callback.failure? : Callback → Option Failure
  | .failed f => some f
  | _ => none

/-- A run against a server that always answers the same makes one attempt after the other. -/
theorem run_eq_attemptAll (h : Listener σ) (a : Attempt)
    (done : σ × List (Callback × Control) → Bool) (n : Nat) (t : Trail σ) :
    ∃ k ≤ n, t.link.run (Trail.noting h) (fun _ => a.news) done n (t.state, t.told) =
      ((t.attemptAll h (.replicate k a)).link,
        ((t.attemptAll h (.replicate k a)).state, (t.attemptAll h (.replicate k a)).told)) := by
  induction n generalizing t with
  | zero => exact ⟨0, Nat.le_refl _, rfl⟩
  | succ n ih =>
    rw [Link.run]
    split
    next => exact ⟨0, Nat.zero_le _, rfl⟩
    next hgo =>
      have ht : t.link.isTrying = true := by simp_all
      obtain ⟨k, hk, he⟩ := ih (t.attempt h a)
      refine ⟨k + 1, Nat.succ_le_succ hk, ?_⟩
      rw [List.replicate_succ]
      refine Eq.trans ?_ he
      rw [Trail.attempt, if_pos ht]

/-! ## What one attempt does -/

/-- A link after an attempt that failed, or did not. -/
def Link.concluded (l : Link) (failure : Option Failure) : Link :=
  { l with
    connected := false
    failures := if failure.isSome then min (l.failures + 1) maxFailures else 0 }.rest

/-- A link after an attempt. -/
def Link.after (l : Link) (e : Episode) : Link :=
  match e.outcome? with
  | none =>
    { l with
      phase := .listening
      connected := true
      received := l.received + UInt64.ofNat e.handed.length }
  | some o => { l with received := l.received + UInt64.ofNat e.handed.length }.concluded o.failure?

theorem concluded_phase (l : Link) (failure : Option Failure) :
    (l.concluded failure).phase = .idle ∨ ∃ d, (l.concluded failure).phase = .waiting d :=
  Line.rest_phase _

theorem after_goOn (l : Link) (e : EventStream.Event) (messages : List EventStream.Event)
    (ending : Option Ending) (handed : List (EventStream.Event × Control)) :
    l.after ⟨.opened (e :: messages) ending, (e, .goOn) :: handed⟩ =
      Link.after { l with received := l.received + 1 } ⟨.opened messages ending, handed⟩ := by
  have hcount : l.received + UInt64.ofNat ((e, Control.goOn) :: handed).length =
      l.received + 1 + UInt64.ofNat handed.length := by
    rw [List.length_cons, Nat.add_comm, UInt64.ofNat_add, ← UInt64.add_assoc]
    rfl
  simp only [Link.after, Episode.outcome?_goOn e _ messages, hcount]

/-- An attempt that hands on nothing leaves the count of messages as it is. -/
theorem after_of_none (l : Link) {a : Attempt} {o : Attempt.Outcome}
    (h : Episode.outcome? ⟨a, []⟩ = some o) : l.after ⟨a, []⟩ = l.concluded o.failure? := by
  simp [Link.after, h]

/-- A link that waits, or has given up, hears nothing. -/
theorem hearAll_of_parted {τ : Type} (h : Listener τ) {l : Link} (s : τ)
    (hl : l.phase = .idle ∨ ∃ d, l.phase = .waiting d) (news : List Link.News) :
    l.hearAll h s news = (l, s) := by
  induction news with
  | nil => rfl
  | cons n ns ih =>
    have hn : l.hear h s n = (l, s) := by
      rcases hl with hl | ⟨d, hl⟩ <;> simp [Link.hear, hl]
    rw [Link.hearAll, List.foldl_cons, hn]
    exact ih

theorem hearAll_cons {τ : Type} (h : Listener τ) (l : Link) (s : τ) (n : Link.News)
    (news : List Link.News) :
    l.hearAll h s (n :: news) = (l.hear h s n).1.hearAll h (l.hear h s n).2 news := rfl

/-- The end of an attempt is told of behind what was told before. -/
theorem conclude_noting (h : Listener σ) (l : Link) (s : σ) (told : List (Callback × Control))
    (failure : Option Failure) :
    ∃ s' more, l.conclude (Trail.noting h) (s, told) failure =
        (l.concluded failure, (s', told ++ more)) ∧
      more.map Prod.fst = Line.parting l.connected failure ∧ more.filterMap answered? = [] := by
  -- four cases: whether the stream was open, and whether the attempt failed
  cases failure <;> cases hc : l.connected <;>
    refine ⟨_, _, by
      simp [Link.conclude, Link.concluded, Trail.noting, hc]
      exact ⟨rfl, rfl⟩, ?_⟩ <;>
    simp [Line.parting, answered?]

section Stream

variable (h : Listener σ) {l : Link} (s : σ) (told : List (Callback × Control))

theorem hear_ending (hp : l.phase = .listening) (ending : Ending) :
    l.hear (Trail.noting h) (s, told) ending.news =
      l.conclude (Trail.noting h) (s, told) ending.outcome.failure? := by
  cases ending <;> simp [Link.hear, hp, Ending.news, Ending.outcome, Attempt.Outcome.failure?]

theorem hear_goOn (hp : l.phase = .listening) {e : EventStream.Event}
    (hr : (h s (.message e)).2 = .goOn) :
    l.hear (Trail.noting h) (s, told) (.message e) =
      ({ l with received := l.received + 1 },
        ((h s (.message e)).1, told ++ [(.message e, .goOn)])) := by
  simp [Link.hear, hp, Trail.noting, hr]

theorem hear_reconnect (hp : l.phase = .listening) {e : EventStream.Event}
    (hr : (h s (.message e)).2 = .reconnect) :
    l.hear (Trail.noting h) (s, told) (.message e) =
      Link.conclude (Trail.noting h) { l with received := l.received + 1 }
        ((h s (.message e)).1, told ++ [(.message e, .reconnect)]) none := by
  simp [Link.hear, hp, Trail.noting, hr]

end Stream

/-- What an open stream brings is handed on until one wishes to reconnect, or it ends. -/
theorem hear_stream (h : Listener σ) (ending : Option Ending) (messages : List EventStream.Event)
    {l : Link} (hp : l.phase = .listening) (hc : l.connected = true) (s : σ)
    (told : List (Callback × Control)) :
    ∃ handed s' more,
      l.hearAll (Trail.noting h) (s, told)
          (messages.map .message ++ (ending.map (·.news)).toList) =
        (l.after ⟨.opened messages ending, handed⟩, (s', told ++ more)) ∧
      Handed messages handed ∧
      more.map Prod.fst = handed.map (fun m => .message m.1) ++
        Episode.parted ⟨.opened messages ending, handed⟩ ∧
      more.filterMap answered? = handed := by
  induction messages generalizing l s told with
  | nil =>
    cases ending with
    | none =>
      refine ⟨[], s, [], ?_, .nil, rfl, rfl⟩
      cases l
      simp_all [Link.hearAll, Link.after]
    | some ending =>
      obtain ⟨s', more, he, hm, ha⟩ := conclude_noting h l s told ending.outcome.failure?
      rw [hc] at hm
      refine ⟨[], s', more, (hear_ending h s told hp ending).trans ?_, .nil, hm, ha⟩
      rw [he, after_of_none l rfl]
  | cons e messages ih =>
    rw [List.map_cons, List.cons_append, hearAll_cons]
    cases hr : (h s (.message e)).2 with
    | goOn =>
      obtain ⟨handed, s', more, he, hh, hm, ha⟩ :=
        ih (l := { l with received := l.received + 1 }) hp hc (h s (.message e)).1
          (told ++ [(.message e, .goOn)])
      refine ⟨(e, .goOn) :: handed, s', (.message e, .goOn) :: more, ?_, hh.goOn e, ?_, ?_⟩
      · rw [hear_goOn h s told hp hr, he, after_goOn, List.append_assoc]
        rfl
      · rw [List.map_cons, hm]
        rfl
      · simp [answered?, ha]
    | reconnect =>
      obtain ⟨s', more, he, hm, ha⟩ := conclude_noting h { l with received := l.received + 1 }
        (h s (.message e)).1 (told ++ [(.message e, .reconnect)]) none
      refine ⟨[(e, .reconnect)], s', (.message e, .reconnect) :: more, ?_, .reconnect e messages,
        ?_, ?_⟩
      · rw [hear_reconnect h s told hp hr, he, hearAll_of_parted _ _ (concluded_phase _ _),
          List.append_assoc]
        rfl
      · rw [List.map_cons, hm, hc]
        rfl
      · simp [answered?, ha]

/-- What one attempt does to a link that makes it. -/
theorem hear_attempt (h : Listener σ) (a : Attempt) {l : Link} (hp : l.phase = .connecting) (s : σ)
    (told : List (Callback × Control)) :
    ∃ handed s' more,
      l.hearAll (Trail.noting h) (s, told) a.news = (l.after ⟨a, handed⟩, (s', told ++ more)) ∧
      Handed a.messages handed ∧
      more.map Prod.fst = Episode.calls l.connected ⟨a, handed⟩ ∧
      more.filterMap answered? = handed := by
  cases a with
  | refused f =>
    obtain ⟨s', more, he, hm, ha⟩ := conclude_noting h l s told (some f)
    refine ⟨[], s', more, ?_, .nil, hm, ha⟩
    rw [Attempt.news, hearAll_cons]
    have hhear : l.hear (Trail.noting h) (s, told) (.refused f) =
        l.conclude (Trail.noting h) (s, told) (some f) := by simp [Link.hear, hp]
    rw [hhear, he, after_of_none l rfl]
    rfl
  | opened messages ending =>
    obtain ⟨handed, s', more, he, hh, hm, ha⟩ :=
      hear_stream h ending messages (l := { l with phase := .listening, connected := true }) rfl rfl
        (h s .opened).1 (told ++ [(.opened, (h s .opened).2)])
    refine ⟨handed, s', (.opened, (h s .opened).2) :: more, ?_, hh, ?_, ?_⟩
    · rw [List.append_assoc] at he
      refine Eq.trans ?_ (he.trans ?_)
      · rw [Attempt.news, List.cons_append, hearAll_cons]
        simp [Link.hear, hp, Trail.noting]
      · rfl
    · rw [List.map_cons, hm]
      rfl
    · exact (List.filterMap_cons_none rfl).trans ha

end ToggleSync.Http
