-- What those who listen to a link are told from its first run to its last: a link is started over
-- and over, by anybody, with any token, and is stopped or cancelled at any moment. The callbacks
-- of a run make brackets of an open, messages and a close, but a run that is ended from outside
-- while its stream is open leaves the bracket open, and the run after it may begin with the close.
import ToggleSync.Http.Link

namespace ToggleSync.Http

variable {ι σ : Type}

/-- A callback, with the run it came from and the one who was told. -/
structure Told (ι : Type) where
  run : Nat
  who : ι
  what : Callback
  deriving DecidableEq, Repr

/-- A run of a link: its number, counted from 0, the one who listens, and the token that ends it. -/
structure Run (ι : Type) where
  number : Nat
  who : ι
  token : Nat
  deriving DecidableEq, Repr

/-- A link with all its runs. Each of its listeners has a part of the state. -/
structure Line (ι σ : Type) where
  link : Link
  /-- The runs that were begun. -/
  runs : Nat
  /-- The last of them. It may have come to its end. -/
  latest : Option (Run ι)
  /-- The tokens that are cancelled. -/
  lost : List Nat
  state : σ
  told : List (Told ι)

/-- What is done to a link from outside, and what happens to it. -/
inductive LinkEvent (ι : Type)
  | start (who : ι) (token : Nat)
  | stop
  | cancel (token : Nat)
  | news (n : Link.News)
  /-- The wait between two attempts is over. -/
  | resume

namespace Line

def new (rules : Backoff) (s : σ) : Line ι σ := ⟨.new rules, 0, none, [], s, []⟩

/-- Listens for a run, and writes down what it is told. -/
def noting (h : ι → Listener σ) (r : Run ι) : Listener (σ × List (Told ι)) := fun s c =>
  (((h r.who s.1 c).1, s.2 ++ [⟨r.number, r.who, c⟩]), (h r.who s.1 c).2)

/-- A link refuses to start under a token that is cancelled. -/
def begin (x : Line ι σ) (who : ι) (token : Nat) : Line ι σ :=
  match { x.link with cancelled := decide (token ∈ x.lost) }.start with
  | .error _ => x
  | .ok link => { x with link, runs := x.runs + 1, latest := some ⟨x.runs, who, token⟩ }

/-- Cancels a token, and with it the run that was begun under it. -/
def cancel (x : Line ι σ) (token : Nat) : Line ι σ :=
  { x with
    link := if x.latest.map (·.token) = some token then x.link.cancel else x.link
    lost := token :: x.lost }

def hear (h : ι → Listener σ) (x : Line ι σ) (n : Link.News) : Line ι σ :=
  match x.latest with
  | none => x
  | some r =>
    let (link, state, told) := x.link.hear (noting h r) (x.state, x.told) n
    { x with link, state, told }

def step (h : ι → Listener σ) (x : Line ι σ) : LinkEvent ι → Line ι σ
  | .start who token => x.begin who token
  | .stop => { x with link := x.link.stop }
  | .cancel token => x.cancel token
  | .news n => x.hear h n
  | .resume => { x with link := x.link.resume }

/-- A link from when it is made. -/
def after (h : ι → Listener σ) (rules : Backoff) (s : σ) (events : List (LinkEvent ι)) :
    Line ι σ :=
  events.foldl (step h) (new rules s)

/-! ## Brackets -/

/-- The order of callbacks: a stream is closed, or it is open. -/
def bracket : Bool → Callback → Option Bool
  | false, .opened => some true
  | true, .message _ => some true
  | true, .closed => some false
  | false, .failed _ => some false
  | _, _ => none

/-- Whether a stream is open after the callbacks, none if they are out of order. -/
def brackets (isOpen : Bool) (cs : List Callback) : Option Bool := cs.foldlM bracket isOpen

/-- The callbacks of the runs and listeners that were asked for. -/
def callbacks (p : Nat → ι → Bool) (x : Line ι σ) : List Callback :=
  (x.told.filter fun t => p t.run t.who).map (·.what)

/-- The callbacks of one run. -/
def ofRun (x : Line ι σ) (run : Nat) : List Callback := x.callbacks fun r _ => r = run

/-- All that one listener was told, in however many runs. -/
def toldTo [DecidableEq ι] (x : Line ι σ) (who : ι) : List Callback :=
  x.callbacks fun _ w => w = who

/-- The run has not come to its end. -/
def goesOn (x : Line ι σ) (run : Nat) : Prop :=
  x.link.phase ≠ .idle ∧ x.latest.map (·.number) = some run

/-- Nobody is told anything out of order, and each run that has ended has closed what it opened. -/
def WellBracketed [DecidableEq ι] (x : Line ι σ) : Prop :=
  (∀ who, (brackets false (x.toldTo who)).isSome) ∧
  ∀ run, ¬ x.goesOn run → brackets false (x.ofRun run) = some false

/-- The event ends a run from outside while its stream is open. -/
def cuts (x : Line ι σ) : LinkEvent ι → Bool
  | .start _ token => x.link.phase = .listening ∧ token ∉ x.lost
  | .stop => x.link.phase = .listening
  | .cancel token => x.link.phase = .listening ∧ x.latest.map (·.token) = some token
  | .news _ => false
  | .resume => false

/-- Some event of the list ends a run while its stream is open. -/
def HasCut (h : ι → Listener σ) (x : Line ι σ) (events : List (LinkEvent ι)) : Prop :=
  ∃ earlier e later, events = earlier ++ e :: later ∧ (earlier.foldl (step h) x).cuts e

@[simp] theorem brackets_nil (b : Bool) : brackets b [] = some b := rfl

theorem brackets_append (b : Bool) (cs ds : List Callback) :
    brackets b (cs ++ ds) = (brackets b cs).bind (brackets · ds) := by
  simp only [brackets, List.foldlM_append]
  rfl

/-! ## What the link says to one piece of news -/

/-- What is said when a connection is over, whatever ended it. -/
def parting (connected : Bool) (failure : Option Failure) : List Callback :=
  (if connected then [.closed] else []) ++ (failure.map .failed).toList

/-- What a link comes to by one piece of news, and what it says of it. -/
inductive Says (l : Link) : List Callback → Link → Prop
  | nothing : Says l [] l
  | opened {l' : Link} (was : l.phase = .connecting) (phase : l'.phase = .listening)
      (connected : l'.connected = true) : Says l [.opened] l'
  | message {l' : Link} (e : EventStream.Event) (was : l.phase = .listening)
      (phase : l'.phase = .listening) (connected : l'.connected = l.connected) :
      Says l [.message e] l'
  | refused {l' : Link} (f : Failure) (was : l.phase = .connecting)
      (phase : l'.phase = .idle ∨ ∃ d, l'.phase = .waiting d) (connected : l'.connected = false) :
      Says l (parting l.connected (some f)) l'
  | parted {l' : Link} (e : Option EventStream.Event) (f : Option Failure)
      (was : l.phase = .listening)
      (phase : l'.phase = .idle ∨ ∃ d, l'.phase = .waiting d) (connected : l'.connected = false) :
      Says l ((e.map .message).toList ++ parting l.connected f) l'

theorem rest_phase (l : Link) : l.rest.phase = .idle ∨ ∃ d, l.rest.phase = .waiting d := by
  unfold Link.rest
  split
  · exact Or.inl rfl
  · exact Or.inr ⟨_, rfl⟩

@[simp] theorem rest_connected (l : Link) : l.rest.connected = l.connected := by
  unfold Link.rest
  split <;> rfl

/-- The entries that a run writes down for what it says. -/
def entries (r : Run ι) (cs : List Callback) : List (Told ι) :=
  cs.map fun c => ⟨r.number, r.who, c⟩

theorem conclude_says (h : ι → Listener σ) (r : Run ι) (l : Link) (s : σ) (told : List (Told ι))
    (failure : Option Failure) :
    ∃ l' s', l.conclude (noting h r) (s, told) failure =
        (l', (s', told ++ entries r (parting l.connected failure))) ∧
      (l'.phase = .idle ∨ ∃ d, l'.phase = .waiting d) ∧ l'.connected = false := by
  cases failure <;> cases hc : l.connected <;>
    exact ⟨_, _, by simp [Link.conclude, noting, hc, parting, entries]; exact ⟨rfl, rfl⟩,
      rest_phase _, by simp⟩

theorem hear_says (h : ι → Listener σ) (r : Run ι) (l : Link) (s : σ) (told : List (Told ι))
    (n : Link.News) :
    ∃ cs l' s', l.hear (noting h r) (s, told) n = (l', (s', told ++ entries r cs)) ∧
      Says l cs l' := by
  unfold Link.hear
  split
  case h_1 f was =>
    obtain ⟨l', s', he, hp, hc⟩ := conclude_says h r l s told (some f)
    exact ⟨_, l', s', he, .refused f was hp hc⟩
  case h_2 was => exact ⟨_, _, _, rfl, .opened was rfl rfl⟩
  case h_3 e was =>
    cases hr : (h r.who s (.message e)).2 with
    | goOn =>
      refine ⟨_, { l with received := l.received + 1 }, (h r.who s (.message e)).1, ?_,
        .message e was was rfl⟩
      simp [noting, hr, entries]
    | reconnect =>
      obtain ⟨l', s', he, hp, hc⟩ := conclude_says h r { l with received := l.received + 1 }
        (h r.who s (.message e)).1 (told ++ entries r [.message e]) none
      refine ⟨_, l', s', ?_, .parted (some e) none was hp hc⟩
      simpa [noting, hr, entries] using he
  case h_4 was =>
    obtain ⟨l', s', he, hp, hc⟩ := conclude_says h r l s told none
    exact ⟨_, l', s', he, .parted none none was hp hc⟩
  case h_5 f was =>
    obtain ⟨l', s', he, hp, hc⟩ := conclude_says h r l s told (some f)
    exact ⟨_, l', s', he, .parted none (some f) was hp hc⟩
  case h_6 => exact ⟨[], l, s, by simp [entries], .nothing⟩

/-- What one piece of news does to a link that was started. -/
theorem hear_of_latest (h : ι → Listener σ) {x : Line ι σ} {r : Run ι}
    (hr : x.latest = some r) (n : Link.News) :
    ∃ cs l' s', x.hear h n = { x with link := l', state := s', told := x.told ++ entries r cs } ∧
      Says x.link cs l' := by
  obtain ⟨cs, l', s', he, hs⟩ := hear_says h r x.link x.state x.told n
  refine ⟨cs, l', s', ?_, hs⟩
  simp only [hear, hr, he]

theorem callbacks_entries (p : Nat → ι → Bool) (x : Line ι σ) (l : Link) (s : σ) (r : Run ι)
    (cs : List Callback) :
    callbacks p { x with link := l, state := s, told := x.told ++ entries r cs } =
      x.callbacks p ++ if p r.number r.who then cs else [] := by
  cases hp : p r.number r.who <;>
    simp [callbacks, entries, List.filter_append, List.filter_map, Function.comp_def, hp]

/-- A start that is not refused begins a run, and nobody is told of it. -/
theorem begin_cases (x : Line ι σ) (who : ι) (token : Nat) :
    (token ∈ x.lost ∧ x.begin who token = x) ∨
    (token ∉ x.lost ∧ ∃ l, l.phase = .connecting ∧ l.connected = x.link.connected ∧
      x.begin who token =
        { x with link := l, runs := x.runs + 1, latest := some ⟨x.runs, who, token⟩ }) := by
  by_cases ht : token ∈ x.lost
  · exact Or.inl ⟨ht, by simp [begin, Link.start, ht]⟩
  · refine Or.inr ⟨ht, { x.link with phase := .connecting, failures := 0, cancelled := false },
      rfl, rfl, ?_⟩
    simp [begin, Link.start, ht]

/-! ## Runs that nobody cuts -/

/-- The stream is open, for one of the runs and listeners that were asked for. -/
def opens (p : Nat → ι → Bool) (x : Line ι σ) : Bool :=
  x.link.phase = .listening && x.latest.any fun r => p r.number r.who

/-- The link counts as connected while its stream is open, and whatever part of the callbacks one
looks at is in order. -/
structure Kept (x : Line ι σ) : Prop where
  connected : x.link.connected = decide (x.link.phase = .listening)
  order : ∀ p, brackets false (x.callbacks p) = some (x.opens p)

theorem kept_new (rules : Backoff) (s : σ) : Kept (new rules s : Line ι σ) :=
  ⟨rfl, fun _ => rfl⟩

theorem Says.brackets_of_connected {l l' : Link} {cs : List Callback} (hs : Says l cs l')
    (hl : l.connected = decide (l.phase = .listening)) :
    l'.connected = decide (l'.phase = .listening) ∧
      brackets (decide (l.phase = .listening)) cs = some (decide (l'.phase = .listening)) := by
  cases hs with
  | nothing => exact ⟨hl, rfl⟩
  | opened was phase connected => simp [was, phase, connected, brackets, bracket]
  | message e was phase connected => simp [was, phase, connected, hl, brackets, bracket]
  | refused f was phase connected =>
    rw [hl, was]
    obtain hp | ⟨d, hp⟩ := phase <;> simp [hp, connected, parting, brackets, bracket]
  | parted e f was phase connected =>
    rw [hl, was]
    obtain hp | ⟨d, hp⟩ := phase <;> cases e <;> cases f <;>
      simp [hp, connected, parting, brackets, bracket]

theorem Kept.step (h : ι → Listener σ) {x : Line ι σ} (hx : Kept x) {e : LinkEvent ι}
    (he : x.cuts e = false) : Kept (step h x e) := by
  cases e with
  | start who token =>
    obtain ⟨_, hb⟩ | ⟨ht, l, hp, hc, hb⟩ := begin_cases x who token
    · simpa [Line.step, hb] using hx
    · have hq : x.link.phase ≠ .listening := by simpa [cuts, ht] using he
      refine ⟨?_, fun p => ?_⟩
      · simp [Line.step, hb, hc, hp, hx.connected, hq]
      · have := hx.order p
        simpa [Line.step, hb, callbacks, opens, hp, hq] using this
  | stop =>
    have hq : x.link.phase ≠ .listening := by simpa [cuts] using he
    refine ⟨by simp [Line.step, Link.stop], fun p => ?_⟩
    simpa [Line.step, Link.stop, callbacks, opens, hq] using hx.order p
  | cancel token =>
    by_cases ht : x.latest.map (·.token) = some token
    · have hq : x.link.phase ≠ .listening := by simpa [cuts, ht] using he
      refine ⟨?_, fun p => ?_⟩
      · simp [Line.step, cancel, ht, Link.cancel, hx.connected, hq]
      · simpa [Line.step, cancel, ht, Link.cancel, callbacks, opens, hq] using hx.order p
    · refine ⟨by simpa [Line.step, cancel, ht] using hx.connected, fun p => ?_⟩
      simpa [Line.step, cancel, ht, callbacks, opens] using hx.order p
  | resume =>
    simp only [Line.step]
    unfold Link.resume
    split
    case h_1 d hd =>
      refine ⟨by simp [hx.connected, hd], fun p => ?_⟩
      simpa [callbacks, opens, hd] using hx.order p
    case h_2 => exact hx
  | news n =>
    cases hr : x.latest with
    | none => simpa [Line.step, hear, hr] using hx
    | some r =>
      obtain ⟨cs, l', s', hh, hs⟩ := hear_of_latest h hr n
      obtain ⟨hc, hb⟩ := hs.brackets_of_connected hx.connected
      simp only [Line.step, hh]
      refine ⟨hc, fun p => ?_⟩
      rw [callbacks_entries, brackets_append, hx.order]
      cases hp : p r.number r.who
      · simp [opens, hr, hp]
      · simpa [opens, hr, hp] using hb

theorem kept_of_uncut (h : ι → Listener σ) {x : Line ι σ} (hx : Kept x)
    (events : List (LinkEvent ι)) (hu : ¬ x.HasCut h events) :
    Kept (events.foldl (Line.step h) x) := by
  induction events generalizing x with
  | nil => exact hx
  | cons e rest ih =>
    have he : x.cuts e = false :=
      Bool.eq_false_iff.2 fun hc => hu ⟨[], e, rest, rfl, hc⟩
    refine ih (hx.step h he) ?_
    rintro ⟨earlier, e', later, rfl, hc⟩
    exact hu ⟨e :: earlier, e', later, rfl, hc⟩

theorem Kept.wellBracketed [DecidableEq ι] {x : Line ι σ} (hx : Kept x) : x.WellBracketed := by
  refine ⟨fun who => by simp [toldTo, hx.order], fun run hrun => ?_⟩
  rw [ofRun, hx.order, Option.some.injEq]
  refine Bool.eq_false_iff.2 fun ho => hrun ?_
  simp only [opens, Bool.and_eq_true, decide_eq_true_eq, Option.any_eq_true] at ho
  obtain ⟨hp, r, hr, hn⟩ := ho
  exact ⟨by simp [hp], by simp [hr, hn]⟩

/-! ## Runs that are cut -/

/-- Callbacks in order, but for a close that may come first of all. -/
def Tidy (cs : List Callback) (isOpen : Bool) : Prop :=
  ∃ ds, (cs = ds ∨ cs = .closed :: ds) ∧ brackets false ds = some isOpen

theorem tidy_nil : Tidy [] false := ⟨[], Or.inl rfl, rfl⟩

theorem Tidy.append {cs ds : List Callback} {b b' : Bool} (hc : Tidy cs b)
    (hd : brackets b ds = some b') : Tidy (cs ++ ds) b' := by
  obtain ⟨es, he, hb⟩ := hc
  refine ⟨es ++ ds, he.imp (by rintro rfl; rfl) (by rintro rfl; rfl), ?_⟩
  rw [brackets_append, hb]
  exact hd

/-- What the run that goes on was told so far. A link that was cut may still count as connected
when the next run begins, and that run closes what it did not open. -/
def Standing (l : Link) (cs : List Callback) : Prop :=
  match l.phase with
  | .idle => ∃ b, Tidy cs b
  | .connecting => cs = [] ∨ (l.connected = false ∧ Tidy cs false)
  | .waiting _ => l.connected = false ∧ Tidy cs false
  | .listening => l.connected = true ∧ Tidy cs true

theorem Standing.tidy {l : Link} {cs : List Callback} (hs : Standing l cs) : ∃ b, Tidy cs b := by
  unfold Standing at hs
  split at hs
  · exact hs
  · exact ⟨false, hs.elim (fun h => h ▸ tidy_nil) And.right⟩
  · exact ⟨false, hs.2⟩
  · exact ⟨true, hs.2⟩

theorem standing_of_rest {l : Link} {cs : List Callback}
    (hp : l.phase = .idle ∨ ∃ d, l.phase = .waiting d) (hc : l.connected = false)
    (ht : Tidy cs false) : Standing l cs := by
  obtain hp | ⟨d, hp⟩ := hp
  · simp only [Standing, hp]
    exact ⟨false, ht⟩
  · simp only [Standing, hp]
    exact ⟨hc, ht⟩

theorem Standing.extend {l l' : Link} {cs ds : List Callback} (hl : Standing l cs)
    (hs : Says l ds l') : Standing l' (cs ++ ds) := by
  cases hs with
  | nothing => simpa using hl
  | opened was phase connected =>
    have hc : Tidy cs false := by
      simp only [Standing, was] at hl
      exact hl.elim (fun h => h ▸ tidy_nil) And.right
    simpa [Standing, phase, connected] using hc.append (by rfl : brackets false [.opened] = _)
  | message e was phase connected =>
    simp only [Standing, was] at hl
    simpa [Standing, phase, connected, hl.1] using
      hl.2.append (by rfl : brackets true [.message e] = _)
  | refused f was phase connected =>
    refine standing_of_rest phase connected ?_
    simp only [Standing, was] at hl
    obtain rfl | ⟨hc, ht⟩ := hl
    · cases l.connected
      · exact ⟨_, Or.inl rfl, rfl⟩
      · exact ⟨_, Or.inr rfl, rfl⟩
    · rw [hc]
      exact ht.append rfl
  | parted e f was phase connected =>
    refine standing_of_rest phase connected ?_
    simp only [Standing, was] at hl
    rw [hl.1]
    refine hl.2.append ?_
    cases e <;> cases f <;> rfl

/-- What holds of a link with all its runs, however they ended. -/
structure Shaped (x : Line ι σ) : Prop where
  begun : ∀ t ∈ x.told, t.run < x.runs
  number : ∀ r, x.latest = some r → r.number < x.runs
  tidy : ∀ run, ∃ b, Tidy (x.ofRun run) b
  standing : ∀ r, x.latest = some r → Standing x.link (x.ofRun r.number)
  /-- While the stream is open, the last thing that was said leaves the bracket open. -/
  inside : x.link.phase = .listening → ∃ r earlier c, x.latest = some r ∧
    x.told = earlier ++ [⟨r.number, r.who, c⟩] ∧ ∀ b, bracket b c ≠ some false

theorem shaped_new (rules : Backoff) (s : σ) : Shaped (new rules s : Line ι σ) :=
  ⟨by simp [new], by simp [new], fun _ => ⟨false, tidy_nil⟩, by simp [new], by simp [new, Link.new]⟩

/-- A run that nobody was told of yet. -/
theorem Shaped.ofRun_next {x : Line ι σ} (hx : Shaped x) : x.ofRun x.runs = [] := by
  have : x.told.filter (fun t => decide (t.run = x.runs)) = [] := by
    rw [List.filter_eq_nil_iff]
    intro t ht
    have := hx.begun t ht
    simp; omega
  simp [ofRun, callbacks, this]

/-- A link that falls idle says nothing of it. -/
theorem Shaped.idle {x : Line ι σ} (hx : Shaped x) {l : Link} (hl : l.phase = .idle)
    (lost : List Nat) : Shaped { x with link := l, lost := lost } :=
  ⟨hx.begun, hx.number, hx.tidy,
    fun r _ => by simp only [Standing, hl]; exact hx.tidy r.number,
    fun h => by simp [hl] at h⟩

theorem Shaped.begin {x : Line ι σ} (hx : Shaped x) (who : ι) (token : Nat) :
    Shaped (x.begin who token) := by
  obtain ⟨_, hb⟩ | ⟨_, l, hp, _, hb⟩ := begin_cases x who token
  · rwa [hb]
  · rw [hb]
    refine ⟨fun t ht => ?_, fun r hr => ?_, hx.tidy, fun r hr => ?_, fun h => by simp [hp] at h⟩
    · exact Nat.lt_succ_of_lt (hx.begun t ht)
    · cases hr
      exact Nat.lt_succ_self _
    · cases hr
      simp only [Standing, hp]
      exact Or.inl hx.ofRun_next

theorem Says.ends_inside {l l' : Link} {cs : List Callback} (hs : Says l cs l')
    (hl : l'.phase = .listening) :
    (cs = [] ∧ l' = l) ∨ ∃ c, cs = [c] ∧ ∀ b, bracket b c ≠ some false := by
  cases hs with
  | nothing => exact Or.inl ⟨rfl, rfl⟩
  | opened => exact Or.inr ⟨_, rfl, by decide⟩
  | message e => exact Or.inr ⟨_, rfl, by rintro (_ | _) <;> simp [bracket]⟩
  | refused f was phase => simp [hl] at phase
  | parted e f was phase => simp [hl] at phase

theorem Shaped.hear (h : ι → Listener σ) {x : Line ι σ} (hx : Shaped x) (n : Link.News) :
    Shaped (x.hear h n) := by
  cases hr : x.latest with
  | none => simpa [Line.hear, hr] using hx
  | some r =>
    obtain ⟨cs, l', s', hh, hs⟩ := hear_of_latest h hr n
    rw [hh]
    have hst : Standing l' (x.ofRun r.number ++ cs) := (hx.standing r hr).extend hs
    refine ⟨fun t ht => ?_, hx.number, fun run => ?_, fun r' hr' => ?_, fun hl => ?_⟩
    · obtain ht | ht := List.mem_append.1 ht
      · exact hx.begun t ht
      · obtain ⟨c, _, rfl⟩ := List.mem_map.1 ht
        exact hx.number r hr
    · rw [ofRun, callbacks_entries]
      by_cases hn : r.number = run
      · simpa [hn, ofRun] using hst.tidy
      · simpa [hn, ofRun] using hx.tidy run
    · obtain rfl : r = r' := Option.some.inj (hr.symm.trans hr')
      rw [ofRun, callbacks_entries]
      simpa [ofRun] using hst
    · obtain ⟨rfl, rfl⟩ | ⟨c, rfl, hc⟩ := hs.ends_inside hl
      · simpa [entries] using hx.inside hl
      · exact ⟨r, x.told, c, hr, rfl, hc⟩

theorem Shaped.step (h : ι → Listener σ) {x : Line ι σ} (hx : Shaped x) (e : LinkEvent ι) :
    Shaped (step h x e) := by
  cases e with
  | start who token => exact hx.begin who token
  | stop => exact hx.idle rfl x.lost
  | cancel token =>
    simp only [Line.step, cancel]
    split
    · exact hx.idle rfl _
    · exact ⟨hx.begun, hx.number, hx.tidy, hx.standing, hx.inside⟩
  | news n => exact hx.hear h n
  | resume =>
    simp only [Line.step]
    unfold Link.resume
    split
    case h_1 d hd =>
      refine ⟨hx.begun, hx.number, hx.tidy, fun r hr => ?_, fun h => by simp at h⟩
      have := hx.standing r hr
      simp only [Standing, hd] at this
      exact Or.inr this
    case h_2 => exact hx

theorem shaped_after (h : ι → Listener σ) (rules : Backoff) (s : σ)
    (events : List (LinkEvent ι)) : Shaped (after h rules s events) :=
  List.foldlRecOn events (Line.step h) (shaped_new rules s) fun _ hx e _ => hx.step h e

/-- A cut leaves a bracket open that nobody will close: the run is over, and the last it said is
not a close. -/
theorem Shaped.not_wellBracketed [DecidableEq ι] (h : ι → Listener σ) {x : Line ι σ}
    (hx : Shaped x) {e : LinkEvent ι} (he : x.cuts e = true) :
    ¬ (Line.step h x e).WellBracketed := by
  intro hw
  have hl : x.link.phase = .listening := by
    cases e <;> simp [cuts] at he
    · exact he.1
    · exact he
    · exact he.1
  obtain ⟨r, earlier, c, hr, ht, hc⟩ := hx.inside hl
  have hn := hx.number r hr
  have hover : ¬ (Line.step h x e).goesOn r.number ∧ (Line.step h x e).told = x.told := by
    cases e with
    | start who token =>
      obtain ⟨hlost, _⟩ | ⟨_, l, _, _, hb⟩ := begin_cases x who token
      · simp [cuts, hlost] at he
      · rw [Line.step, hb]
        refine ⟨fun hg => ?_, rfl⟩
        have : x.runs = r.number := by simpa using hg.2
        omega
    | stop => exact ⟨by simp [Line.step, Link.stop, goesOn], rfl⟩
    | cancel token =>
      simp only [cuts, decide_eq_true_eq] at he
      exact ⟨by simp [Line.step, cancel, he.2, Link.cancel, goesOn], rfl⟩
    | news n => simp [cuts] at he
    | resume => simp [cuts] at he
  have hend := hw.2 r.number hover.1
  rw [ofRun, callbacks, hover.2, ht] at hend
  simp only [List.filter_append, List.map_append, List.filter_cons, List.filter_nil,
    decide_true, if_true, List.map_cons, List.map_nil, brackets_append] at hend
  obtain ⟨b, -, hb⟩ := Option.bind_eq_some_iff.1 hend
  exact hc b (by simpa [brackets] using hb)

/-! ## All runs of a link -/

/-- The callbacks of every run are in order, but for a close at its start that belongs to a run
before it. All listeners are told everything in order, and every run that has ended has closed
what it opened, at every moment up to now, exactly if no run was ended from outside while its
stream was open: by a stop, by a start, or by its token. -/
theorem brackets_are_kept_exactly_while_no_open_stream_is_cut [DecidableEq ι]
    (h : ι → Listener σ) (rules : Backoff) (s : σ) (events : List (LinkEvent ι)) :
    (∀ run, ∃ b, Tidy ((after h rules s events).ofRun run) b) ∧
    ((∀ earlier, earlier <+: events → (after h rules s earlier).WellBracketed) ↔
      ¬ (new rules s).HasCut h events) := by
  refine ⟨(shaped_after h rules s events).tidy, fun hall hcut => ?_, fun hu earlier hp => ?_⟩
  · obtain ⟨earlier, e, later, rfl, he⟩ := hcut
    have hw := hall (earlier ++ [e]) ⟨later, by simp⟩
    rw [after, List.foldl_append] at hw
    exact (shaped_after h rules s earlier).not_wellBracketed h he hw
  · obtain ⟨later, rfl⟩ := hp
    have huncut : ¬ (new rules s).HasCut h earlier := by
      rintro ⟨a, e, b, rfl, he⟩
      exact hu ⟨a, e, b ++ later, by simp, he⟩
    exact (kept_of_uncut h (kept_new rules s) earlier huncut).wellBracketed

/-- A stream is opened and then stopped, and the one who listens never hears of a close. -/
theorem a_stopped_stream_is_never_closed :
    let x := after (fun (_ : Unit) s _ => (s, .goOn)) .standard ()
      [.start () 0, .news .opened, .stop]
    x.toldTo () = [.opened] ∧ x.link.phase = .idle ∧ ¬ x.WellBracketed := by
  refine ⟨by decide, by decide, fun hw => ?_⟩
  have := hw.2 0 (by simp [goesOn, after, step, Link.stop])
  exact absurd this (by decide)

/-- A listener whose first attempt is refused is told of a close, for a stream that another one
had open before. -/
example :
    (after (fun (_ : Bool) s _ => (s, .goOn)) .standard ()
      [.start false 0, .news .opened, .start true 0, .news (.refused .requestFailed)]).toldTo true =
      [.closed, .failed .requestFailed] := by decide

end Line

end ToggleSync.Http
