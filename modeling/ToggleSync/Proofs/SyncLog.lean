-- What the log of a client shows, and what the operations on a client add to it. An effect
-- changes the log, the ready signal, the requests and the backup files, and nothing else.
import ToggleSync.Sync

namespace ToggleSync

/-! ## Views of the log -/

/-- Reads the entries of one kind off the log. A view never shows a failure that is told of, a
file that is written, or the ready signal. -/
structure View (α : Type) where
  see : Entry → Option α
  skips_write : ∀ slot text, see (.wrote slot text) = none
  skips_error : ∀ kind f, see (.notice (.error kind f)) = none
  skips_announced : see .announced = none
  skips_ready : see (.notice .ready) = none

namespace View

/-- The backups that were handed over to be kept. -/
def backups : View Backup where
  see
    | .saved b => some b
    | _ => none
  skips_write _ _ := rfl
  skips_error _ _ := rfl
  skips_announced := rfl
  skips_ready := rfl

/-- The times that new toggles were told of. -/
def updates : View Unit where
  see
    | .notice .updated => some ()
    | _ => none
  skips_write _ _ := rfl
  skips_error _ _ := rfl
  skips_announced := rfl
  skips_ready := rfl

def questions : View Polling.Question where
  see
    | .asked q => some q
    | _ => none
  skips_write _ _ := rfl
  skips_error _ _ := rfl
  skips_announced := rfl
  skips_ready := rfl

/-- The changes of mode that were told of. -/
def modes : View Mode where
  see
    | .notice (.modeChanged mode) => some mode
    | _ => none
  skips_write _ _ := rfl
  skips_error _ _ := rfl
  skips_announced := rfl
  skips_ready := rfl

/-- The starts of the stream that were not refused (true), and its stops (false). -/
def streamTurns : View Bool where
  see
    | .streamStarted false => some true
    | .streamStopped _ => some false
    | _ => none
  skips_write _ _ := rfl
  skips_error _ _ := rfl
  skips_announced := rfl
  skips_ready := rfl

/-- A view that has nothing to do with the toggles, the questions and the reports of a client. -/
structure Aside {α : Type} (v : View α) : Prop where
  saved : ∀ b, v.see (.saved b) = none
  updated : v.see (.notice .updated) = none
  asked : ∀ q, v.see (.asked q) = none
  registered : ∀ r, v.see (.registered r) = none
  reported : ∀ m, v.see (.reported m) = none

theorem aside_modes : modes.Aside := by
  constructor <;> intros <;> rfl

theorem aside_streamTurns : streamTurns.Aside := by
  constructor <;> intros <;> rfl

/-- What an effect adds to a view. -/
def shows {α : Type} (v : View α) : Effect → List α
  | .notice n => (v.see (.notice n)).toList
  | .save b => (v.see (.saved b)).toList
  | .announce => []
  | .request _ => []

end View

/-- The effects of cycles and of messages: neither a change of mode nor an impression. -/
def Effect.isPlain : Effect → Bool
  | .notice (.error _ _) => true
  | .notice .updated => true
  | .notice _ => false
  | _ => true

/-- The mode that an effect asks for. -/
def Effect.mode? : Effect → Option Mode
  | .request mode => some mode
  | _ => none

theorem Ready.fire_fire (r : Ready) : r.fire.fire = r.fire := by
  obtain ⟨fired, armed⟩ := r
  cases fired <;> cases armed <;> rfl

theorem View.Aside.shows {α : Type} {v : View α} (hv : v.Aside) {es : List Effect}
    (h : es.all Effect.isPlain = true) : es.flatMap v.shows = [] := by
  rw [List.flatMap_eq_nil_iff]
  intro e he
  have hp := List.all_eq_true.mp h e he
  cases e with
  | notice n =>
    cases n with
    | error kind f => simp [View.shows, v.skips_error]
    | updated => simp [View.shows, hv.updated]
    | ready => cases hp
    | modeChanged mode => cases hp
    | impression i => cases hp
  | save b => simp [View.shows, hv.saved]
  | announce => rfl
  | request mode => rfl

/-- No effect asks the server for anything. -/
theorem View.questions_shows (es : List Effect) : es.flatMap View.questions.shows = [] := by
  rw [List.flatMap_eq_nil_iff]
  intro e _
  cases e <;> rfl

namespace Sync

variable {α : Type}

def seen (s : Sync) (v : View α) : List α := s.log.filterMap fun e => v.see e.2

theorem seen_of_log {s s' : Sync} (h : s'.log = s.log) (v : View α) : s'.seen v = s.seen v := by
  unfold seen
  rw [h]

theorem seen_note (s : Sync) (now : Nat) (e : Entry) (v : View α) :
    (s.note now e).seen v = s.seen v ++ (v.see e).toList := by
  simp only [seen, note, List.filterMap_append]
  cases h : v.see e <;> simp [h]

theorem seen_raise_error (s : Sync) (now : Nat) (kind : ErrorKind) (f : Failure) (v : View α) :
    (s.raise now (.error kind f)).seen v = s.seen v := by
  rw [raise, seen_note, v.skips_error]
  simp

/-! ## What effects leave alone -/

/-- Two states of a client that differ only in what effects may change. -/
structure SameParts (s s' : Sync) : Prop where
  engine : s'.engine = s.engine
  polling : s'.polling = s.polling
  streaming : s'.streaming = s.streaming
  backend : s'.backend = s.backend
  mustSucceedFirst : s'.mustSucceedFirst = s.mustSucceedFirst
  rules : s'.rules = s.rules
  listening : s'.listening = s.listening
  calendar : s'.calendar = s.calendar

theorem SameParts.refl (s : Sync) : SameParts s s := by
  constructor <;> rfl

theorem SameParts.trans {s t u : Sync} (h : SameParts s t) (h' : SameParts t u) :
    SameParts s u := by
  constructor
  · rw [h'.engine, h.engine]
  · rw [h'.polling, h.polling]
  · rw [h'.streaming, h.streaming]
  · rw [h'.backend, h.backend]
  · rw [h'.mustSucceedFirst, h.mustSucceedFirst]
  · rw [h'.rules, h.rules]
  · rw [h'.listening, h.listening]
  · rw [h'.calendar, h.calendar]

theorem sameParts_note (s : Sync) (now : Nat) (e : Entry) : SameParts s (s.note now e) := by
  constructor <;> rfl

/-- What a file that is read and a failure that is told of keep, the loading of a backup keeps. -/
theorem along_loadBackup {Q : Sync → Prop} {now : Nat}
    (hread : ∀ (t : Sync) (slot : Backup.Slot), Q t → Q (t.note now (.read slot)))
    (htold : ∀ (t : Sync) (f : Failure), Q t → Q (t.raise now (.error .fileCache f)))
    {s : Sync} (h : Q s) : Q (s.loadBackup now).1 := by
  have hreads : ∀ (slots : List Backup.Slot) {t : Sync}, Q t →
      Q (slots.foldl (noteRead now) t) := by
    intro slots
    induction slots with
    | nil => exact fun ht => ht
    | cons slot slots ih => exact fun ht => ih (hread _ slot ht)
  unfold loadBackup
  split
  · exact h
  · simp only
    split
    · exact hreads _ h
    · exact htold _ _ (hreads _ h)

theorem sameParts_loadBackup (s : Sync) (now : Nat) : SameParts s (s.loadBackup now).1 :=
  along_loadBackup (fun t _ h => h.trans (sameParts_note t now _))
    (fun t _ h => h.trans (sameParts_note t now _)) (.refl s)

theorem foldl_noteWrite (now : Nat) (ws : List (Backup.Slot × String)) (s : Sync) :
    ws.foldl (noteWrite now) s =
      { s with log := s.log ++ ws.map fun w => (now, Entry.wrote w.1 w.2) } := by
  induction ws generalizing s with
  | nil => simp
  | cons w ws ih => simp [ih, noteWrite, note]

theorem sameParts_save (s : Sync) (now : Nat) (b : Backup) : SameParts s (s.save now b) := by
  unfold save
  simp only [foldl_noteWrite]
  split
  · exact sameParts_note s now _
  · split <;> constructor <;> rfl

theorem seen_save (s : Sync) (now : Nat) (b : Backup) (v : View α) :
    (s.save now b).seen v = s.seen v ++ (v.see (.saved b)).toList := by
  unfold save
  simp only [foldl_noteWrite]
  split
  · exact seen_note s now _ v
  · rw [← seen_note s now (.saved b) v]
    have hwrites : ∀ ws : List (Backup.Slot × String),
        (ws.map fun w => (now, Entry.wrote w.1 w.2)).filterMap (fun e => v.see e.2) = [] := by
      intro ws
      simp [v.skips_write]
    split
    · simp only [seen, List.filterMap_append, hwrites, List.append_nil]
    · rw [seen_raise_error]
      simp only [seen, List.filterMap_append, hwrites, List.append_nil]

theorem sameParts_fireReady (s : Sync) (now : Nat) : SameParts s (s.fireReady now) := by
  unfold fireReady
  split
  · constructor <;> rfl
  · exact .refl s

theorem seen_fireReady (s : Sync) (now : Nat) (v : View α) :
    (s.fireReady now).seen v = s.seen v := by
  unfold fireReady
  split
  · rw [raise, seen_note, v.skips_ready]
    simp [seen]
  · rfl

theorem sameParts_request (s : Sync) (mode : Mode) : SameParts s (s.request mode) := by
  unfold request
  split
  · constructor <;> rfl
  · exact .refl s

theorem seen_request (s : Sync) (mode : Mode) (v : View α) :
    (s.request mode).seen v = s.seen v := by
  apply seen_of_log
  unfold request
  split <;> rfl

theorem sameParts_perform (now : Nat) (s : Sync) (e : Effect) : SameParts s (perform now s e) := by
  cases e with
  | notice n => exact sameParts_note s now _
  | save b => exact sameParts_save s now b
  | announce => exact (sameParts_note s now _).trans (sameParts_fireReady _ now)
  | request mode => exact sameParts_request s mode

theorem seen_perform (now : Nat) (s : Sync) (e : Effect) (v : View α) :
    (perform now s e).seen v = s.seen v ++ v.shows e := by
  cases e with
  | notice n => exact seen_note s now _ v
  | save b => exact seen_save s now b v
  | announce =>
    rw [perform, seen_fireReady, seen_note, v.skips_announced]
    rfl
  | request mode =>
    rw [perform, seen_request]
    simp [View.shows]

theorem sameParts_performAll (now : Nat) (es : List Effect) (s : Sync) :
    SameParts s (es.foldl (perform now) s) := by
  induction es generalizing s with
  | nil => exact .refl s
  | cons e es ih => exact (sameParts_perform now s e).trans (ih _)

theorem seen_performAll (now : Nat) (es : List Effect) (s : Sync) (v : View α) :
    (es.foldl (perform now) s).seen v = s.seen v ++ es.flatMap v.shows := by
  induction es generalizing s with
  | nil => simp
  | cons e es ih => rw [List.foldl_cons, ih, seen_perform, List.flatMap_cons, List.append_assoc]

/-! ## Requests and the ready signal -/

theorem requests_save (s : Sync) (now : Nat) (b : Backup) :
    (s.save now b).requests = s.requests := by
  unfold save
  simp only [foldl_noteWrite]
  split
  · rfl
  · split <;> rfl

theorem ready_save (s : Sync) (now : Nat) (b : Backup) : (s.save now b).ready = s.ready := by
  unfold save
  simp only [foldl_noteWrite]
  split
  · rfl
  · split <;> rfl

theorem requests_fireReady (s : Sync) (now : Nat) :
    (s.fireReady now).requests = s.requests := by
  unfold fireReady
  split <;> rfl

theorem ready_fireReady (s : Sync) (now : Nat) : (s.fireReady now).ready = s.ready.fire := by
  unfold fireReady
  split
  · rfl
  · rename_i h
    exact (if_neg h).symm

/-- Changes of mode are asked for where anyone takes requests. -/
theorem requests_performAll (now : Nat) (es : List Effect) (s : Sync) :
    (es.foldl (perform now) s).requests =
      s.requests ++ if s.listening then es.filterMap Effect.mode? else [] := by
  induction es generalizing s with
  | nil => simp
  | cons e es ih =>
    rw [List.foldl_cons, ih, (sameParts_perform now s e).listening]
    cases e with
    | notice n => rfl
    | save b =>
      rw [perform, requests_save]
      rfl
    | announce =>
      rw [perform, requests_fireReady]
      rfl
    | request mode =>
      cases hl : s.listening <;> simp [perform, request, Effect.mode?, hl]

/-- Only the word that there are toggles fires the ready signal. -/
theorem ready_performAll (now : Nat) (es : List Effect) (s : Sync) :
    (es.foldl (perform now) s).ready = if .announce ∈ es then s.ready.fire else s.ready := by
  induction es generalizing s with
  | nil => rfl
  | cons e es ih =>
    rw [List.foldl_cons, ih]
    cases e with
    | announce =>
      have hfired : (perform now s .announce).ready = s.ready.fire := ready_fireReady _ now
      rw [hfired, Ready.fire_fire]
      simp
    | save b =>
      have hkept : (perform now s (.save b)).ready = s.ready := ready_save s now b
      simp [hkept]
    | notice n => simp [perform, raise, note]
    | request mode =>
      have hkept : (perform now s (.request mode)).ready = s.ready := by
        rw [perform, request]
        split <;> rfl
      simp [hkept]

/-! ## Asking the server -/

theorem seen_ask (s : Sync) (now : Nat) (v : View α) :
    (s.ask now).1.seen v =
      s.seen v ++ (v.see (.asked (s.polling.ask s.mustSucceedFirst))).toList := by
  unfold ask
  rw [seen_note]
  rfl

/-- What a cycle hears of an outcome; over HTTP not every failure is handed on. -/
def heard (s : Sync) (q : Polling.Question) (outcome : Except Failure Fetched) :
    Except Failure Fetched :=
  if s.backend.overHttp then (hearFetched q.mustSucceed outcome).1 else outcome

theorem hear_heard (s : Sync) (now : Nat) (q : Polling.Question)
    (outcome : Except Failure Fetched) : (s.hear now q outcome).2 = s.heard q outcome := by
  unfold hear heard
  split
  · split <;> simp_all
  · rfl

theorem sameParts_hear (s : Sync) (now : Nat) (q : Polling.Question)
    (outcome : Except Failure Fetched) : SameParts s (s.hear now q outcome).1 := by
  unfold hear
  split
  · split
    · exact sameParts_note s now _
    · exact .refl s
  · exact .refl s

theorem seen_hear (s : Sync) (now : Nat) (q : Polling.Question)
    (outcome : Except Failure Fetched) (v : View α) :
    (s.hear now q outcome).1.seen v = s.seen v := by
  unfold hear
  split
  · split
    · exact seen_raise_error s now _ _ v
    · rfl
  · rfl

/-- The cycle that a question ends in. -/
def cycleOf (s : Sync) (q : Polling.Question) (outcome : Except Failure Fetched) : Polling.Cycle :=
  s.polling.conclude s.engine q (s.heard q outcome)

/-- What the end of a cycle does to the parts of a client. -/
structure Concluded (s : Sync) (c : Polling.Cycle) (s' : Sync) : Prop where
  engine : s'.engine = c.engine
  polling : s'.polling = c.polling
  streaming : s'.streaming = s.streaming
  backend : s'.backend = s.backend
  listening : s'.listening = s.listening
  seen : ∀ {α : Type} (v : View α), s'.seen v = s.seen v ++ c.effects.flatMap v.shows

theorem concluded (s : Sync) (now : Nat) (q : Polling.Question)
    (outcome : Except Failure Fetched) :
    Concluded s (s.cycleOf q outcome) (s.conclude now q outcome).1 := by
  have hp := sameParts_hear s now q outcome
  unfold conclude cycleOf
  simp only [hear_heard, hp.polling, hp.engine]
  constructor
  · exact (sameParts_performAll now _ _).engine
  · exact (sameParts_performAll now _ _).polling
  · rw [(sameParts_performAll now _ _).streaming]
    exact hp.streaming
  · rw [(sameParts_performAll now _ _).backend]
    exact hp.backend
  · rw [(sameParts_performAll now _ _).listening]
    exact hp.listening
  · intro α v
    rw [seen_performAll, ← seen_hear s now q outcome v]
    rfl

end Sync

end ToggleSync
