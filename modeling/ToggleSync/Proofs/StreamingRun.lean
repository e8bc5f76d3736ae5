-- The law of the stream. A payload is accepted when it can be read. Whatever a stream tells a
-- client, and in whatever order, the toggles, the backups, the news and the ready signal come from
-- the accepted payloads alone, the refused ones and the failures are each told of once, and polling
-- is asked for exactly when the failures and hints seen so far are too many.
import ToggleSync.Http.Session
import ToggleSync.Proofs.FailureWindow
import ToggleSync.Proofs.PollingRun
import ToggleSync.Proofs.StateText

namespace ToggleSync

/-! ## Outlets of the log -/

/-- Reads the entries of one kind off the log, failures among them. An outlet shows neither the
files that are written, nor the failures to write them, nor the ready signal. -/
structure Outlet (α : Type) where
  see : Entry → Option α
  skips_write : ∀ slot text, see (.wrote slot text) = none
  skips_backup : ∀ f, see (.notice (.error .togglesBackup f)) = none
  skips_ready : see (.notice .ready) = none

namespace Outlet

/-- The times that it was said that there are toggles. -/
def announcements : Outlet Unit where
  see
    | .announced => some ()
    | _ => none
  skips_write _ _ := rfl
  skips_backup _ := rfl
  skips_ready := rfl

/-- The failures that were told of, other than those to keep a backup. -/
def complaints : Outlet (ErrorKind × Failure) where
  see
    | .notice (.error .togglesBackup _) => none
    | .notice (.error kind f) => some (kind, f)
    | _ => none
  skips_write _ _ := rfl
  skips_backup _ := rfl
  skips_ready := rfl

/-- What an effect adds to an outlet. -/
def shows {α : Type} (v : Outlet α) : Effect → List α
  | .notice n => (v.see (.notice n)).toList
  | .save b => (v.see (.saved b)).toList
  | .announce => (v.see .announced).toList
  | .request _ => []

end Outlet

namespace Sync

variable {α : Type}

def out (s : Sync) (v : Outlet α) : List α := s.log.filterMap fun e => v.see e.2

theorem out_note (s : Sync) (now : Nat) (e : Entry) (v : Outlet α) :
    (s.note now e).out v = s.out v ++ (v.see e).toList := by
  simp only [out, note, List.filterMap_append]
  cases h : v.see e <;> simp [h]

theorem out_save (s : Sync) (now : Nat) (b : Backup) (v : Outlet α) :
    (s.save now b).out v = s.out v ++ (v.see (.saved b)).toList := by
  have hwrites : ∀ ws : List (Backup.Slot × String),
      (ws.map fun w => (now, Entry.wrote w.1 w.2)).filterMap (fun e => v.see e.2) = [] := by
    intro ws
    simp [v.skips_write]
  unfold save
  simp only [foldl_noteWrite]
  split
  · exact out_note s now _ v
  · rw [← out_note s now (.saved b) v]
    split
    · simp only [out, List.filterMap_append, hwrites, List.append_nil]
    · rw [raise, out_note, v.skips_backup]
      simp only [out, List.filterMap_append, hwrites, Option.toList_none, List.append_nil]

theorem out_fireReady (s : Sync) (now : Nat) (v : Outlet α) :
    (s.fireReady now).out v = s.out v := by
  unfold fireReady
  split
  · rw [raise, out_note, v.skips_ready]
    simp [out]
  · rfl

theorem out_perform (now : Nat) (s : Sync) (e : Effect) (v : Outlet α) :
    (perform now s e).out v = s.out v ++ v.shows e := by
  cases e with
  | notice n => exact out_note s now _ v
  | save b => exact out_save s now b v
  | announce => rw [perform, out_fireReady, out_note, Outlet.shows]
  | request mode =>
    rw [perform, request, Outlet.shows, List.append_nil]
    split <;> rfl

theorem out_performAll (now : Nat) (es : List Effect) (s : Sync) (v : Outlet α) :
    (es.foldl (perform now) s).out v = s.out v ++ es.flatMap v.shows := by
  induction es generalizing s with
  | nil => simp
  | cons e es ih => rw [List.foldl_cons, ih, out_perform, List.flatMap_cons, List.append_assoc]

end Sync

/-! ## Calls of a stream -/

/-- A callback of the stream: the tick and the time at which it comes. -/
structure StreamCall where
  tick : Nat
  time : Instant
  callback : Http.Callback

namespace StreamCall

def message? (x : StreamCall) : Option StreamMessage :=
  match x.callback with
  | .message e => some (.ofEvent e.name e.data)
  | _ => none

/-- The state that a call brings, whether or not it can be read. -/
def payload? (x : StreamCall) : Option String := x.message?.bind (·.state?)

def accepted? (x : StreamCall) : Option String := x.payload?.filter isReadable

/-- What there is to complain of in a call: a state that cannot be read, or a failure. -/
def complaint? (x : StreamCall) : Option (ErrorKind × Failure) :=
  match x.callback, x.payload? with
  | .failed f, _ => some (.client, f)
  | _, some text =>
    match Update.read text with
    | .error e => some (.togglesUpdate, .state e)
    | .ok _ => none
  | _, none => none

/-- A failure, or a hint of the server. It is taken when it happens. -/
def sighting? (x : StreamCall) : Option Failover.Sighting :=
  match x.callback, x.message? with
  | .failed f, _ => some ⟨⟨.ofFailure f, x.time⟩, x.time⟩
  | _, some (.fetchMode hint) => some ⟨⟨.hint (trim hint), x.time⟩, x.time⟩
  | _, _ => none

end StreamCall

namespace Streaming

/-- What streaming does at a call. -/
def takes (s : Streaming) (e : Engine) (rules : Failover.Rules) (x : StreamCall) : Reaction :=
  match x.callback with
  | .opened => ⟨s.opened, e, [], .goOn⟩
  | .message m => s.message e rules x.time (.ofEvent m.name m.data)
  | .failed f => ⟨(s.failed rules x.time f).1, e, (s.failed rules x.time f).2, .goOn⟩
  | .closed => ⟨s.closed, e, [], .goOn⟩

variable (s : Streaming) (e : Engine) (rules : Failover.Rules)

theorem apply_of_readable {text : String} (h : isReadable text = true) :
    s.apply e text =
      ⟨{ s with phase := .ready, announced := true },
        { e with snapshot := e.snapshot.after text },
        [.save ⟨(e.snapshot.after text).render, none⟩, .notice .updated] ++
          (if s.announced then [] else [.announce]), .goOn⟩ := by
  unfold apply
  rw [takeState_of_readable e h]
  rfl

theorem apply_of_unreadable {text : String} {error : StateError}
    (h : Update.read text = .error error) :
    s.apply e text =
      ⟨s, e, [.notice (.error .togglesUpdate (.state error))], .reconnect⟩ := by
  unfold apply Engine.takeState
  rw [h]

/-- A call that brings a state is neither a failure nor a hint. -/
theorem takes_of_payload {x : StreamCall} {text : String} (h : x.payload? = some text) :
    x.sighting? = none ∧ s.takes e rules x = s.apply e text ∧
      x.complaint? =
        match Update.read text with
        | .error error => some (.togglesUpdate, .state error)
        | .ok _ => none := by
  obtain ⟨tick, time, callback⟩ := x
  cases callback with
  | message m =>
    have hstate : (StreamMessage.ofEvent m.name m.data).state? = some text := h
    have hsighting : StreamCall.sighting? ⟨tick, time, .message m⟩ = none := by
      simp only [StreamCall.sighting?, StreamCall.message?]
      cases hm : StreamMessage.ofEvent m.name m.data with
      | fetchMode hint =>
        rw [hm] at hstate
        cases hstate
      | _ => rfl
    have htakes : s.takes e rules ⟨tick, time, .message m⟩ = s.apply e text := by
      simp only [takes]
      cases hm : StreamMessage.ofEvent m.name m.data with
      | connected state =>
        rw [hm] at hstate
        cases hstate
        rfl
      | updated state =>
        rw [hm] at hstate
        cases hstate
        rfl
      | fetchMode hint =>
        rw [hm] at hstate
        cases hstate
      | unknown event data =>
        rw [hm] at hstate
        cases hstate
    refine ⟨hsighting, htakes, ?_⟩
    simp only [StreamCall.complaint?, h]
  | opened => cases h
  | failed f => cases h
  | closed => cases h

/-- All that a call can do: bring a state that is taken; bring one that is refused; be a failure or
a hint, which counts for giving up; or else at most change the phase of the stream. -/
theorem takes_cases (x : StreamCall) :
    (∃ text, x.payload? = some text ∧ isReadable text = true ∧ x.complaint? = none ∧
      x.sighting? = none ∧ s.takes e rules x =
        ⟨{ s with phase := .ready, announced := true },
          { e with snapshot := e.snapshot.after text },
          [.save ⟨(e.snapshot.after text).render, none⟩, .notice .updated] ++
            (if s.announced then [] else [.announce]), .goOn⟩) ∨
    (∃ text error, x.payload? = some text ∧ isReadable text = false ∧
      x.complaint? = some (.togglesUpdate, .state error) ∧ x.sighting? = none ∧
      s.takes e rules x =
        ⟨s, e, [.notice (.error .togglesUpdate (.state error))], .reconnect⟩) ∨
    (∃ y, x.payload? = none ∧ x.sighting? = some y ∧
      (∀ c, x.complaint? = some c → c.1 = .client) ∧ s.takes e rules x =
        ⟨{ s with incidents := (rules.step s.incidents y.incident y.now).2 }, e,
          x.complaint?.toList.map (fun c => .notice (.error c.1 c.2)) ++
            (if (rules.step s.incidents y.incident y.now).1 then [.request .polling] else []),
          .goOn⟩) ∨
    (∃ phase, x.payload? = none ∧ x.complaint? = none ∧ x.sighting? = none ∧
      s.takes e rules x = ⟨{ s with phase }, e, [], .goOn⟩) := by
  cases hp : x.payload? with
  | some text =>
    obtain ⟨hsighting, htakes, hcomplaint⟩ := s.takes_of_payload e rules hp
    cases hr : Update.read text with
    | ok u =>
      have hreadable : isReadable text = true := by rw [isReadable, hr]; rfl
      rw [hr] at hcomplaint
      rw [apply_of_readable s e hreadable] at htakes
      exact .inl ⟨text, rfl, hreadable, hcomplaint, hsighting, htakes⟩
    | error error =>
      have hunreadable : isReadable text = false := by rw [isReadable, hr]; rfl
      rw [hr] at hcomplaint
      rw [apply_of_unreadable s e hr] at htakes
      exact .inr (.inl ⟨text, error, rfl, hunreadable, hcomplaint, hsighting, htakes⟩)
  | none =>
    obtain ⟨tick, time, callback⟩ := x
    cases callback with
    | opened => exact .inr (.inr (.inr ⟨.connected, rfl, rfl, rfl, rfl⟩))
    | closed => exact .inr (.inr (.inr ⟨.disconnected, rfl, rfl, rfl, rfl⟩))
    | failed f =>
      refine .inr (.inr (.inl ⟨_, rfl, rfl, ?_, rfl⟩))
      rintro c ⟨⟩
      rfl
    | message m =>
      have hstate : (StreamMessage.ofEvent m.name m.data).state? = none := hp
      have hcomplaint : StreamCall.complaint? ⟨tick, time, .message m⟩ = none := by
        simp only [StreamCall.complaint?, hp]
      cases hm : StreamMessage.ofEvent m.name m.data with
      | connected state =>
        rw [hm] at hstate
        cases hstate
      | updated state =>
        rw [hm] at hstate
        cases hstate
      | fetchMode hint =>
        refine .inr (.inr (.inl ⟨⟨⟨.hint (trim hint), time⟩, time⟩, rfl, ?_, ?_, ?_⟩))
        · simp only [StreamCall.sighting?, StreamCall.message?, hm]
        · rw [hcomplaint]
          rintro c ⟨⟩
        · rw [hcomplaint]
          simp only [takes, hm, message, record, Option.toList_none, List.map_nil, List.nil_append]
      | unknown event data =>
        refine .inr (.inr (.inr ⟨s.phase, rfl, hcomplaint, ?_, ?_⟩))
        · simp only [StreamCall.sighting?, StreamCall.message?, hm]
        · simp only [takes, hm]
          rfl

end Streaming

/-! ## Histories -/

/-- The states that calls bring and that can be read, in order. -/
def acceptedOf (calls : List StreamCall) : List String := calls.filterMap (·.accepted?)

def complaintsOf (calls : List StreamCall) : List (ErrorKind × Failure) :=
  calls.filterMap (·.complaint?)

def sightingsOf (calls : List StreamCall) : List Failover.Sighting :=
  calls.filterMap (·.sighting?)

/-- The toggles after each of the states, taken in order. -/
def Collection.passes (c : Collection) : List String → List Collection
  | [] => []
  | text :: texts => c.after text :: (c.after text).passes texts

theorem Collection.passes_append (c : Collection) (texts later : List String) :
    c.passes (texts ++ later) = c.passes texts ++ (texts.foldl after c).passes later := by
  induction texts generalizing c with
  | nil => rfl
  | cons text texts ih =>
    rw [List.cons_append, passes, passes, ih, List.cons_append, List.foldl_cons]

/-- One request for polling for each sighting, after others, at which it is time to give up. -/
def Failover.Rules.polls (rules : Rules) (seen : List Sighting) : List Sighting → List Mode
  | [] => []
  | x :: later =>
    (if rules.givesUp seen x then [.polling] else []) ++ polls rules (seen ++ [x]) later

theorem Failover.Rules.polls_append (rules : Rules) (seen xs later : List Sighting) :
    rules.polls seen (xs ++ later) = rules.polls seen xs ++ rules.polls (seen ++ xs) later := by
  induction xs generalizing seen with
  | nil => simp [polls]
  | cons x xs ih =>
    rw [List.cons_append, polls, polls, ih, List.append_assoc, List.append_assoc]
    rfl

namespace Streaming

/-- What a call leaves behind and what it has done, told by the state that is accepted of it, by
what there is to complain of, and by whether it counts for giving up. -/
structure Reacted (s : Streaming) (e : Engine) (rules : Failover.Rules) (x : StreamCall)
    (r : Reaction) : Prop where
  incidents : r.streaming.incidents = x.sighting?.toList.foldl
    (fun past y => (rules.step past y.incident y.now).2) s.incidents
  announced : r.streaming.announced = (s.announced || x.accepted?.isSome)
  snapshot : r.engine.snapshot = x.accepted?.toList.foldl .after e.snapshot
  backups : r.effects.flatMap View.backups.shows =
    (e.snapshot.passes x.accepted?.toList).map fun c => ⟨c.render, none⟩
  updates : (r.effects.flatMap View.updates.shows).length = x.accepted?.toList.length
  announcements : r.effects.flatMap Outlet.announcements.shows =
    if !s.announced && x.accepted?.isSome then [()] else []
  announces : .announce ∈ r.effects ↔ (!s.announced && x.accepted?.isSome) = true
  complaints : r.effects.flatMap Outlet.complaints.shows = x.complaint?.toList
  modes : r.effects.filterMap Effect.mode? = x.sighting?.toList.flatMap fun y =>
    if (rules.step s.incidents y.incident y.now).1 then [.polling] else []

theorem accepted?_of_readable {x : StreamCall} {text : String} (hp : x.payload? = some text)
    (h : isReadable text = true) : x.accepted? = some text := by
  rw [StreamCall.accepted?, hp, Option.filter_some, if_pos h]

theorem accepted?_of_unreadable {x : StreamCall} {text : String} (hp : x.payload? = some text)
    (h : isReadable text = false) : x.accepted? = none := by
  rw [StreamCall.accepted?, hp, Option.filter_some, h]
  rfl

theorem accepted?_of_no_payload {x : StreamCall} (hp : x.payload? = none) : x.accepted? = none := by
  rw [StreamCall.accepted?, hp]
  rfl

theorem reacted (s : Streaming) (e : Engine) (rules : Failover.Rules) (x : StreamCall) :
    Reacted s e rules x (s.takes e rules x) := by
  obtain ⟨text, hp, hread, hc, hs, h⟩ | ⟨text, error, hp, hread, hc, hs, h⟩ |
    ⟨y, hp, hs, hc, h⟩ | ⟨phase, hp, hc, hs, h⟩ := s.takes_cases e rules x
  · rw [h]
    have ha := accepted?_of_readable hp hread
    constructor <;> cases hann : s.announced <;>
      simp [ha, hc, hs, Collection.passes, View.shows, View.backups, View.updates, Outlet.shows,
        Outlet.announcements, Outlet.complaints, Effect.mode?]
  · rw [h]
    have ha := accepted?_of_unreadable hp hread
    constructor <;>
      simp [ha, hc, hs, Collection.passes, View.shows, View.backups, View.updates, Outlet.shows,
        Outlet.announcements, Outlet.complaints, Effect.mode?]
  · rw [h]
    have ha := accepted?_of_no_payload hp
    -- a failure is told of, a hint is not
    have htold : x.complaint? = none ∨ ∃ f, x.complaint? = some (.client, f) := by
      cases hx : x.complaint? with
      | none => exact .inl rfl
      | some c =>
        obtain ⟨kind, f⟩ := c
        obtain rfl : kind = .client := hc _ hx
        exact .inr ⟨f, rfl⟩
    obtain hx | ⟨f, hx⟩ := htold <;> constructor <;>
      cases hgives : (rules.step s.incidents y.incident y.now).1 <;>
      simp [ha, hs, hx, hgives, Collection.passes, View.shows, View.backups, View.updates,
        Outlet.shows, Outlet.announcements, Outlet.complaints, List.filterMap_cons, Effect.mode?]
  · rw [h]
    have ha := accepted?_of_no_payload hp
    constructor <;> simp [ha, hc, hs, Collection.passes]

end Streaming

namespace Sync

/-- A call reaches the parts of a client, at the time of the calendar. -/
def listen (s : Sync) (x : StreamCall) : Sync × Control :=
  Http.listener x.tick { s with calendar := x.time } x.callback

def listenAll (s : Sync) (calls : List StreamCall) : Sync :=
  calls.foldl (fun s x => (s.listen x).1) s

theorem listen_eq (s : Sync) (x : StreamCall) :
    s.listen x =
      let r := s.streaming.takes s.engine s.rules x
      (r.effects.foldl (perform x.tick)
        { s with calendar := x.time, streaming := r.streaming, engine := r.engine },
        r.control) := by
  obtain ⟨tick, time, callback⟩ := x
  cases callback <;> rfl

theorem listenAll_snoc (s : Sync) (calls : List StreamCall) (x : StreamCall) :
    s.listenAll (calls ++ [x]) = ((s.listenAll calls).listen x).1 := by
  rw [listenAll, List.foldl_append]
  rfl

end Sync

/-! ## The invariant -/

/-- What is left of a client, whose streaming began anew, after calls of the stream. -/
structure Streamed (s : Sync) (calls : List StreamCall) (s' : Sync) : Prop where
  rules : s'.rules = s.rules
  listening : s'.listening = s.listening
  incidents : s'.streaming.incidents = s.rules.kept (sightingsOf calls)
  announced : s'.streaming.announced = !(acceptedOf calls).isEmpty
  snapshot : s'.engine.snapshot = (acceptedOf calls).foldl .after s.engine.snapshot
  backups : s'.seen .backups = s.seen .backups ++
    (s.engine.snapshot.passes (acceptedOf calls)).map fun c => ⟨c.render, none⟩
  updates : (s'.seen .updates).length = (s.seen .updates).length + (acceptedOf calls).length
  announcements : s'.out .announcements =
    s.out .announcements ++ if (acceptedOf calls).isEmpty then [] else [()]
  ready : s'.ready = if (acceptedOf calls).isEmpty then s.ready else s.ready.fire
  complaints : s'.out .complaints = s.out .complaints ++ complaintsOf calls
  requests : s'.requests =
    s.requests ++ if s.listening then s.rules.polls [] (sightingsOf calls) else []

namespace Streamed

variable {s s' : Sync} {calls : List StreamCall}

theorem start (s : Sync) : Streamed s [] { s with streaming := .new } := by
  constructor <;> simp [acceptedOf, complaintsOf, sightingsOf, Failover.Rules.kept, Streaming.new,
    Collection.passes, Failover.Rules.polls, Sync.seen, Sync.out]

/-- The effects of a call are what it adds to the log and to the requests. -/
theorem performed (s : Sync) (x : StreamCall) :
    let r := s.streaming.takes s.engine s.rules x
    (s.listen x).1.streaming = r.streaming ∧ (s.listen x).1.engine = r.engine ∧
    (s.listen x).1.rules = s.rules ∧ (s.listen x).1.listening = s.listening ∧
    (∀ {α : Type} (v : View α), (s.listen x).1.seen v = s.seen v ++ r.effects.flatMap v.shows) ∧
    (∀ {α : Type} (v : Outlet α), (s.listen x).1.out v = s.out v ++ r.effects.flatMap v.shows) ∧
    (s.listen x).1.ready = (if .announce ∈ r.effects then s.ready.fire else s.ready) ∧
    (s.listen x).1.requests =
      s.requests ++ if s.listening then r.effects.filterMap Effect.mode? else [] := by
  intro r
  have heq := s.listen_eq x
  have hp := Sync.sameParts_performAll x.tick r.effects
    { s with calendar := x.time, streaming := r.streaming, engine := r.engine }
  rw [heq]
  refine ⟨hp.streaming, hp.engine, hp.rules, hp.listening, ?_, ?_, ?_, ?_⟩
  · intro α v
    exact Sync.seen_performAll x.tick r.effects _ v
  · intro α v
    exact Sync.out_performAll x.tick r.effects _ v
  · exact Sync.ready_performAll x.tick r.effects _
  · exact Sync.requests_performAll x.tick r.effects _

/-- One more call, after those before it. -/
theorem listen (h : Streamed s calls s') (x : StreamCall) :
    Streamed s (calls ++ [x]) (s'.listen x).1 := by
  obtain ⟨hstreaming, hengine, hrules, hlistening, hseen, hout, hready, hrequests⟩ := performed s' x
  have hr := s'.streaming.reacted s'.engine s'.rules x
  have haccepted : acceptedOf (calls ++ [x]) = acceptedOf calls ++ x.accepted?.toList :=
    List.filterMap_append
  have hsightings : sightingsOf (calls ++ [x]) = sightingsOf calls ++ x.sighting?.toList :=
    List.filterMap_append
  have hcomplaints : complaintsOf (calls ++ [x]) = complaintsOf calls ++ x.complaint?.toList :=
    List.filterMap_append
  constructor
  · rw [hrules, h.rules]
  · rw [hlistening, h.listening]
  · rw [hstreaming, hr.incidents, h.incidents, h.rules, hsightings, Failover.Rules.kept,
      Failover.Rules.kept, List.foldl_append]
  · rw [hstreaming, hr.announced, h.announced, haccepted]
    cases x.accepted? <;> simp
  · rw [hengine, hr.snapshot, h.snapshot, haccepted, List.foldl_append]
  · rw [hseen, hr.backups, h.backups, h.snapshot, haccepted, Collection.passes_append,
      List.map_append, List.append_assoc]
  · rw [hseen, List.length_append, hr.updates, h.updates, haccepted, List.length_append,
      Nat.add_assoc]
  · rw [hout, hr.announcements, h.announcements, h.announced, haccepted, List.append_assoc]
    cases acceptedOf calls <;> cases x.accepted? <;> rfl
  · simp only [hready, hr.announces, h.ready, h.announced, haccepted]
    cases acceptedOf calls <;> cases x.accepted? <;> rfl
  · rw [hout, hr.complaints, h.complaints, hcomplaints, List.append_assoc]
  · rw [hrequests, hr.modes, h.requests, h.listening, h.rules, h.incidents, hsightings,
      Failover.Rules.polls_append, List.append_assoc]
    cases s.listening with
    | false => rfl
    | true =>
      cases x.sighting? with
      | none => rfl
      | some y => rfl

theorem listenAll (s : Sync) (calls : List StreamCall) :
    Streamed s calls (Sync.listenAll { s with streaming := .new } calls) := by
  induction calls using List.reverseRecOn with
  | nil => exact start s
  | append_singleton calls x ih =>
    rw [Sync.listenAll_snoc]
    exact ih.listen x

end Streamed

/-! ## The next call -/

namespace Sync

variable (s : Sync) {x : StreamCall}

end Sync

/-! ## The law -/

end ToggleSync
