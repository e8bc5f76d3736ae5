-- The lives of a client from its start to its end. A life is any order of small steps: a move of a
-- task's loop, time that passes, a mode that is asked for, a call of the stream, another server, a
-- question of the application. What comes from the server on the way is its history.
import ToggleSync.Http.Session
import ToggleSync.Proofs.CycleMoves
import ToggleSync.Proofs.StreamingRun

namespace ToggleSync

/-! ## What comes from the server -/

/-- An outcome that an exchange over HTTP can have, with or without an answer. -/
def Http.IsExchanged (outcome : Except Failure Fetched) : Prop :=
  ∃ tag e, outcome = Http.Exchange.fetched tag e

/-- Something that comes to a client from its server: what a request for toggles comes to, or a
state on the stream. -/
inductive Happening
  | asked (q : Polling.Question) (outcome : Except Failure Fetched)
  | streamed (text : String)

/-- What a run waits for, as something that is to come. -/
def Asked.happening (a : Asked) : Happening := .asked a.question a.outcome

/-! ## Steps -/

namespace Client

/-- What a client keeps while it loads a backup and takes the state of it. -/
theorem along_restore {Q : Sync → Prop} {now : Nat}
    (hread : ∀ (t : Sync) (slot : Backup.Slot), Q t → Q (t.note now (.read slot)))
    (htold : ∀ (t : Sync) (f : Failure), Q t → Q (t.raise now (.error .fileCache f)))
    (htake : ∀ (t : Sync) (engine : Engine) (tag : Option String), Q t →
      Q { t with engine, polling := .new tag })
    {s : Sync} (h : Q s) : Q (restore s now) := by
  have hload : Q (s.loadBackup now).1 := Sync.along_loadBackup hread htold h
  unfold restore
  generalize s.loadBackup now = loaded at hload
  obtain ⟨t, backup⟩ := loaded
  simp only
  split
  · exact htake t t.engine _ hload
  · split
    · exact htake t _ _ hload
    · exact htake _ t.engine _ (htold t _ hload)

/-- The parts of a client before it polls or streams. -/
def begun (s : Settings) (p : Parts) : Sync :=
  restore (.new p.backend none s.mustSucceedFirst s.failover p.keeping) 0

/-- What comes from the server while a client is built: with a synchronous start in polling, what
the first question comes to. -/
def opening (s : Settings) (p : Parts) : List Happening :=
  if s.synchronous && !s.streaming then
    [.asked (begun s p).question (begun s p).backend.next.1.outcome]
  else []

def withMachine (c : Client) (machine : Machine) : Client :=
  { c with coordinator := { c.coordinator with machine } }

/-- A step of a client, and what comes from the server in it: a move of a task's loop, time that
passes, a mode that is asked for, a call of the stream, another server, a question of the
application, or the end. -/
inductive Step : Client → List Happening → Client → Prop
  | move {c : Client} {i : Nat} {l : Loop Job Asked} {v : Move} :
      c.coordinator.machine.CanMove i l v →
      Step c ((c.coordinator.machine.ends? l v).toList.map Asked.happening)
        (c.withMachine (c.coordinator.machine.move Sync.behaviour i v))
  | pass {c : Client} {now : Nat} : c.now ≤ now →
      Step c [] (c.withMachine { c.coordinator.machine with now })
  | change (c : Client) (mode : Mode) :
      Step c [] { c with coordinator := (c.coordinator.changeMode mode).1 }
  | takeRequests (c : Client) : Step c [] (c.update ({ · with requests := [] }))
  | call (c : Client) (x : StreamCall) :
      Step c (x.payload?.toList.map .streamed) (c.update fun s => (s.listen x).1)
  | server (c : Client) (answers : List Answer) (startFailure : Option Failure) :
      (∀ a ∈ answers, Http.IsExchanged a.outcome) →
      Step c [] (c.update fun s => { s with backend := { s.backend with answers, startFailure } })
  | enabled (c : Client) (name : String) (context : Context) (default : Bool) :
      Step c [] (c.isEnabled name context default).1
  | variant (c : Client) (name : String) (context : Context) (default : Variant)
      (spare : String) : Step c [] (c.variant name context default spare).1
  | close (c : Client) : Step c [] c.close.1

/-- A client that was built, after some steps, with everything that has come from its server. The
start of it may have failed. -/
inductive Lived (s : Settings) (i : Identity) (p : Parts) : Client → List Happening → Prop
  | built {c : Client} {result : Except Failure Unit} :
      build s i p = .ok (c, result) → Lived s i p c (opening s p)
  | step {c c' : Client} {history more : List Happening} :
      Lived s i p c history → Step c more c' → Lived s i p c' (history ++ more)

/-! ## Whole operations -/

section

variable {s : Settings} {i : Identity} {p : Parts} {c : Client}

/-- A client that has lived, through whatever history. -/
def IsLived (s : Settings) (i : Identity) (p : Parts) (c : Client) : Prop :=
  ∃ history, Lived s i p c history

theorem IsLived.step (h : IsLived s i p c) {c' : Client} {more : List Happening}
    (hs : Step c more c') : IsLived s i p c' := by
  obtain ⟨history, hl⟩ := h
  exact ⟨_, hl.step hs⟩

theorem IsLived.stable (c : Client) : Clockwork.Stable Sync.behaviour
    fun machine => IsLived s i p (c.withMachine machine) where
  move h hm := h.step (.move hm)
  pass h ht := h.step (.pass ht)

theorem IsLived.changes (modes : List Mode) (h : IsLived s i p c) :
    IsLived s i p { c with
      coordinator := modes.foldl (fun c mode => (c.changeMode mode).1) c.coordinator } := by
  induction modes generalizing c with
  | nil => exact h
  | cons mode modes ih => exact ih (h.step (.change c mode))

/-- Doing all that can be done without time passing is nothing but steps. -/
theorem IsLived.settled (h : IsLived s i p c) : IsLived s i p c.settled := by
  have hattended : IsLived s i p { c with coordinator := c.coordinator.attend } := by
    have htaken := h.step (.takeRequests c)
    unfold Coordinator.attend
    simp only
    split
    · exact htaken
    · exact htaken.changes c.coordinator.sync.requests
  exact (stable { c with coordinator := c.coordinator.attend }).settle hattended

theorem IsLived.advance (h : IsLived s i p c) (ticks : Nat) :
    IsLived s i p (c.withMachine (c.coordinator.machine.advance Sync.behaviour ticks)) :=
  (stable c).advance ticks h

theorem IsLived.awaitReady (h : IsLived s i p c) (ticks : Nat) :
    IsLived s i p (c.awaitReady ticks).1 :=
  (stable c).waitUntil (·.state.ready.fired) ticks h

theorem IsLived.setMode (h : IsLived s i p c) (mode : Mode) :
    IsLived s i p (c.setMode mode).1 := by
  unfold Client.setMode
  split
  · exact h
  · exact h.step (.change c mode)

theorem IsLived.all (h : IsLived s i p c) (context : Context) :
    IsLived s i p (c.all context).1 := by
  have hasked : ∀ (names : List String) (acc : Client × Table Bool), IsLived s i p acc.1 →
      IsLived s i p (names.foldl (askAll context) acc).1 := by
    intro names
    induction names with
    | nil => exact fun _ hacc => hacc
    | cons name names ih =>
      exact fun acc hacc => ih _ (hacc.step (.enabled acc.1 name context false))
  exact hasked _ _ h

end

end Client

/-! ## Sessions -/

namespace Http

/-- Whatever each callback of a link keeps is kept by all that the link hears. -/
theorem Link.hear_keeps {σ : Type} {h : Listener σ} {Q : σ → Prop}
    (hQ : ∀ s c, Q s → Q (h s c).1) (l : Link) {s : σ} (hs : Q s) (n : News) :
    Q (l.hear h s n).2 := by
  have hconclude : ∀ (l : Link) {s : σ} (failure : Option Failure), Q s →
      Q (l.conclude h s failure).2 := by
    intro l s failure hs
    have hclosed : Q (if l.connected then (h s .closed).1 else s) := by
      split
      · exact hQ s _ hs
      · exact hs
    unfold conclude
    cases failure with
    | none => exact hclosed
    | some f => exact hQ _ _ hclosed
  unfold hear
  split
  · exact hconclude l _ hs
  · exact hQ s _ hs
  · rename_i e _
    have hheard := hQ s (.message e) hs
    simp only
    split <;> rename_i heq <;> rw [heq] at hheard
    · exact hheard
    · exact hconclude _ none hheard
  · exact hconclude l none hs
  · exact hconclude l _ hs
  · exact hs

theorem Link.hearAll_keeps {σ : Type} {h : Listener σ} {Q : σ → Prop}
    (hQ : ∀ s c, Q s → Q (h s c).1) (l : Link) {s : σ} (hs : Q s) (news : List News) :
    Q (l.hearAll h s news).2 := by
  have hall : ∀ acc : Link × σ, Q acc.2 →
      Q (news.foldl (fun acc n => acc.1.hear h acc.2 n) acc).2 := by
    induction news with
    | nil => exact fun _ hacc => hacc
    | cons n news ih => exact fun acc hacc => ih _ (acc.1.hear_keeps hQ hacc n)
  exact hall (l, s) hs

namespace Session

variable {s : Settings} {i : Identity} {p : Client.Parts} {session : Session}

theorem client_follow (session : Session) : session.follow.client = session.client := by
  unfold follow
  split <;> rfl

theorem lived_advance (h : Client.IsLived s i p session.client) (ticks : Nat) :
    Client.IsLived s i p (session.advance ticks).client := (h.advance ticks).settled

/-- A turn of a session is nothing but steps of its client. -/
theorem lived_turn (h : Client.IsLived s i p session.client) (news : List Link.News) :
    Client.IsLived s i p (session.turn news).client := by
  have hf : Client.IsLived s i p session.follow.client := by
    rw [client_follow]
    exact h
  unfold turn
  simp only
  split
  · rw [client_follow]
    apply Client.IsLived.settled
    -- a callback comes at the time of the calendar, which it leaves as it is
    let Q : Sync → Prop := fun t => Client.IsLived s i p (session.follow.client.update fun _ => t)
    refine Link.hearAll_keeps (Q := Q) ?_ _ hf news
    intro t c ht
    exact ht.step (.call _ ⟨session.follow.client.now, t.calendar, c⟩)
  · exact lived_advance hf _
  · exact lived_advance hf 1

theorem lived_awaitReady (news : List Link.News) (n : Nat)
    (h : Client.IsLived s i p session.client) :
    Client.IsLived s i p (awaitReady news n session).1.client := by
  induction n generalizing session with
  | zero => exact h
  | succ n ih =>
    unfold awaitReady
    split
    · exact h
    · exact ih (lived_turn h news)

end Session

end Http

end ToggleSync
