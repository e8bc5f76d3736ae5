-- The loops of one task form a chain: each waits for the one before it, and the slot of the task
-- knows the last. So of all the loops of a task at most one is under way.
import ToggleSync.Clockwork

namespace ToggleSync

variable {J P : Type}

/-! ## What a loop can do -/

/-- The loop has nothing under way, and need not wait for another one. -/
inductive Loop.Idle (l : Loop J P) (free : Bool) : Prop
  | queued : l.phase = .queued → free = true → Idle l free
  | resting (due : Nat) : l.phase = .resting due → Idle l free

/-- What a loop has to be like for a move. -/
inductive Loop.Able (l : Loop J P) (cancelled : List String) (free : Bool) : Move → Prop
  | leave : l.isStopped cancelled = true → l.Idle free → Able l cancelled free .leave
  | rest (due : Nat) : l.isStopped cancelled = false → l.Idle free →
      Able l cancelled free (.rest due)
  | begin : l.isStopped cancelled = false → l.Idle free → Able l cancelled free .begin
  /-- Only a run that is under way can be finished. -/
  | finish (c : Bool) (due : Nat) (stubborn : Bool) (pending : P) :
      l.phase = .running due stubborn pending → Able l cancelled free (.finish c)

theorem Loop.Idle.phase {l : Loop J P} {free : Bool} (h : l.Idle free) :
    l.phase ≠ .ended ∧ (l.phase = .queued → free = true) := by
  cases h with
  | queued hp hf => exact ⟨by simp [hp], fun _ => hf⟩
  | resting due hp => exact ⟨by simp [hp], by simp [hp]⟩

theorem Loop.able_of_move {l : Loop J P} {cancelled : List String} {free : Bool} {now : Nat}
    {m : Move} (h : l.move? cancelled free now = some m) : l.Able cancelled free m := by
  unfold move? at h
  cases hs : l.isStopped cancelled with
  | true =>
    simp only [hs] at h
    cases hp : l.phase with
    | queued =>
      cases hf : free with
      | false => simp [hp, hf] at h
      | true =>
        simp [hp, hf] at h
        subst h
        exact .leave hs (.queued hp rfl)
    | resting due =>
      simp [hp] at h
      subst h
      exact .leave hs (.resting due hp)
    | running due stubborn pending =>
      simp only [hp] at h
      split at h
      · cases h
        exact .finish true due stubborn pending hp
      · split at h
        · cases h
          exact .finish false due stubborn pending hp
        · cases h
    | ended =>
      simp [hp] at h
  | false =>
    simp only [hs] at h
    cases hp : l.phase with
    | queued =>
      cases hf : free with
      | false => simp [hp, hf] at h
      | true =>
        simp only [hp, hf, Bool.not_true, Bool.false_eq_true, if_false] at h
        split at h
        · cases h
          exact .rest _ hs (.queued hp rfl)
        · cases h
          exact .begin hs (.queued hp rfl)
    | resting due =>
      simp only [hp, Bool.false_eq_true, if_false] at h
      split at h
      · cases h
        exact .begin hs (.resting due hp)
      · cases h
    | running due stubborn pending =>
      simp only [hp, Bool.false_and, Bool.false_eq_true, if_false] at h
      split at h
      · cases h
        exact .finish false due stubborn pending hp
      · cases h
    | ended => simp [hp] at h

/-- A loop that moves has not ended, and if it had not begun, the loop before it has ended. -/
theorem Loop.Able.phase {l : Loop J P} {cancelled : List String} {free : Bool} {m : Move}
    (h : l.Able cancelled free m) : l.phase ≠ .ended ∧ (l.phase = .queued → free = true) := by
  cases h with
  | leave _ hi => exact hi.phase
  | rest _ _ hi => exact hi.phase
  | begin _ hi => exact hi.phase
  | finish _ _ _ _ hp => exact ⟨by simp [hp], by simp [hp]⟩

namespace Tasks

/-! ## The loops of a task -/

/-- Loop `i` is `l`, and a loop of the task with the name. -/
def HasLoop (t : Tasks J P) (name : String) (i : Nat) (l : Loop J P) : Prop :=
  t.loops[i]? = some l ∧ l.task.name = name

/-- Changes one loop. Stopping a loop and moving it to another phase are of this kind. -/
def alter (t : Tasks J P) (i : Nat) (f : Loop J P → Loop J P) : Tasks J P :=
  { t with loops := t.loops.modify i f }

theorem setPhase_eq_alter (t : Tasks J P) (i : Nat) (phase : Phase P) :
    t.setPhase i phase = t.alter i fun l => { l with phase } := rfl

theorem stopLoop_eq_alter (t : Tasks J P) (i : Nat) :
    t.stopLoop i = t.alter i fun l => { l with stopped := true } := rfl

theorem getElem?_alter (t : Tasks J P) (i j : Nat) (f : Loop J P → Loop J P) :
    (t.alter i f).loops[j]? = t.loops[j]?.map fun l => if i = j then f l else l := by
  simp only [alter, List.getElem?_modify]
  rfl

theorem stopped_stopLoop {t : Tasks J P} {i : Nat} {l : Loop J P}
    (hl : (t.stopLoop i).loops[i]? = some l) : l.stopped = true := by
  rw [stopLoop_eq_alter, getElem?_alter, Option.map_eq_some_iff] at hl
  obtain ⟨k, _, rfl⟩ := hl
  simp

theorem hasLoop_of_alter {t : Tasks J P} {name : String} {i j : Nat} {f : Loop J P → Loop J P}
    {l' : Loop J P} (h : (t.alter i f).HasLoop name j l') (hf : ∀ l, (f l).task = l.task) :
    ∃ l, t.HasLoop name j l ∧ l' = if i = j then f l else l := by
  obtain ⟨h1, h2⟩ := h
  rw [getElem?_alter, Option.map_eq_some_iff] at h1
  obtain ⟨l, hl, rfl⟩ := h1
  refine ⟨l, ⟨hl, ?_⟩, rfl⟩
  rw [← h2]
  split
  · rw [hf]
  · rfl

theorem hasLoop_alter {t : Tasks J P} {name : String} {j : Nat} {l : Loop J P}
    {f : Loop J P → Loop J P} (hf : ∀ l, (f l).task = l.task) (h : t.HasLoop name j l)
    (i : Nat) : ∃ l', (t.alter i f).HasLoop name j l' := by
  refine ⟨if i = j then f l else l, ?_, ?_⟩
  · rw [getElem?_alter, h.1]
    rfl
  · split
    · rw [hf]
      exact h.2
    · exact h.2

theorem eq_of_hasLoop {t : Tasks J P} {name : String} {i : Nat} {l k : Loop J P}
    (h : t.HasLoop name i l) (hk : t.loops[i]? = some k) : l = k :=
  Option.some.inj (h.1.symm.trans hk)

/-! ## The chain -/

/-- Before a loop of the task begins, all that came before it have ended. -/
def Ordered (t : Tasks J P) (name : String) : Prop :=
  ∀ {i j : Nat} {l l' : Loop J P}, t.HasLoop name i l → t.HasLoop name j l' → i < j →
    l'.phase ≠ .queued → l.phase = .ended

/-- The loops of a task hang together. -/
structure Chained (t : Tasks J P) (name : String) : Prop where
  /-- A loop waits for one that is at least as late as any other loop before it. -/
  linked : ∀ {i j : Nat} {l l' : Loop J P}, t.HasLoop name i l → t.HasLoop name j l' → i < j →
    ∃ p k, l'.previous = some p ∧ i ≤ p ∧ p < j ∧ t.HasLoop name p k
  ordered : t.Ordered name
  /-- The slot knows the last loop. -/
  latest : ∀ {s : Slot J} {i : Nat} {l : Loop J P}, t.slot? name = some s →
    t.HasLoop name i l → ∃ p k, s.run = some p ∧ i ≤ p ∧ t.HasLoop name p k
  own : ∀ {s : Slot J} {p : Nat}, t.slot? name = some s → s.run = some p →
    ∃ k, t.HasLoop name p k

theorem Chained.alter {t : Tasks J P} {name : String} (h : t.Chained name) (i : Nat)
    {f : Loop J P → Loop J P} (hf : ∀ l, (f l).task = l.task)
    (hp : ∀ l, (f l).previous = l.previous) (ho : (t.alter i f).Ordered name) :
    (t.alter i f).Chained name := by
  constructor
  · intro a b la lb ha hb hab
    obtain ⟨ka, hka, rfl⟩ := hasLoop_of_alter ha hf
    obtain ⟨kb, hkb, rfl⟩ := hasLoop_of_alter hb hf
    obtain ⟨p, k, hprev, h1, h2, hk⟩ := h.linked hka hkb hab
    obtain ⟨k', hk'⟩ := hasLoop_alter hf hk i
    refine ⟨p, k', ?_, h1, h2, hk'⟩
    split
    · rw [hp]
      exact hprev
    · exact hprev
  · exact ho
  · intro s a la hs ha
    obtain ⟨ka, hka, rfl⟩ := hasLoop_of_alter ha hf
    obtain ⟨p, k, hrun, h1, hk⟩ := h.latest hs hka
    obtain ⟨k', hk'⟩ := hasLoop_alter hf hk i
    exact ⟨p, k', hrun, h1, hk'⟩
  · intro s p hs hrun
    obtain ⟨k, hk⟩ := h.own hs hrun
    exact hasLoop_alter hf hk i

theorem Chained.stopLoop {t : Tasks J P} {name : String} (h : t.Chained name) (i : Nat) :
    (t.stopLoop i).Chained name := by
  rw [stopLoop_eq_alter]
  refine h.alter i (fun _ => rfl) (fun _ => rfl) ?_
  intro a b la lb ha hb hab hbq
  obtain ⟨ka, hka, rfl⟩ := hasLoop_of_alter ha (fun _ => rfl)
  obtain ⟨kb, hkb, rfl⟩ := hasLoop_of_alter hb (fun _ => rfl)
  have hend : ka.phase = .ended := by
    apply h.ordered hka hkb hab
    split at hbq <;> exact hbq
  split <;> exact hend

/-- The loop that a free loop waited for has ended. -/
theorem ended_of_free {t : Tasks J P} {l k : Loop J P} {p : Nat}
    (hfree : ((l.previous.map t.hasEnded).getD true) = true) (hp : l.previous = some p)
    (hk : t.loops[p]? = some k) : k.phase = .ended := by
  simp only [hp, Option.map_some, Option.getD_some, hasEnded, hk] at hfree
  cases h : k.phase <;> simp_all [Phase.isEnded]

/-- All loops before one that moves have ended. -/
theorem Chained.ended_before {t : Tasks J P} {name : String} (h : t.Chained name) {i j : Nat}
    {l l' : Loop J P} (hi : t.HasLoop name i l) (hj : t.HasLoop name j l') (hij : i < j)
    (hfree : l'.phase = .queued → ((l'.previous.map t.hasEnded).getD true) = true) :
    l.phase = .ended := by
  by_cases hq : l'.phase = .queued
  · obtain ⟨p, k, hprev, h1, _, hk⟩ := h.linked hi hj hij
    have hend := ended_of_free (hfree hq) hprev hk.1
    rcases Nat.lt_or_eq_of_le h1 with hlt | rfl
    · exact h.ordered hi hk hlt (by rw [hend]; simp)
    · rw [eq_of_hasLoop hi hk.1]
      exact hend
  · exact h.ordered hi hj hij hq

/-- A move of a loop, to whatever phase, keeps the chain. -/
theorem Chained.setPhase {t : Tasks J P} {name : String} (h : t.Chained name) {i : Nat}
    {l : Loop J P} (hl : t.loops[i]? = some l) (hne : l.phase ≠ .ended)
    (hfree : l.phase = .queued → ((l.previous.map t.hasEnded).getD true) = true)
    (phase : Phase P) : (t.setPhase i phase).Chained name := by
  rw [setPhase_eq_alter]
  refine h.alter i (fun _ => rfl) (fun _ => rfl) ?_
  intro a b la lb ha hb hab hbq
  obtain ⟨ka, hka, rfl⟩ := hasLoop_of_alter ha (fun _ => rfl)
  obtain ⟨kb, hkb, rfl⟩ := hasLoop_of_alter hb (fun _ => rfl)
  by_cases hia : i = a
  · -- the loops behind one that still moves have not begun
    have hib : i ≠ b := by omega
    subst hia
    rw [if_neg hib] at hbq
    have hend := h.ordered hka hkb hab hbq
    rw [eq_of_hasLoop hka hl] at hend
    exact absurd hend hne
  · rw [if_neg hia]
    by_cases hib : i = b
    · subst hib
      rw [← eq_of_hasLoop hkb hl] at hfree
      exact h.ended_before hka hkb hab hfree
    · rw [if_neg hib] at hbq
      exact h.ordered hka hkb hab hbq

/-! ## Starting a task -/

theorem slot?_name {t : Tasks J P} {name : String} {s : Slot J} (h : t.slot? name = some s) :
    s.task.name = name := by
  unfold slot? at h
  simpa using List.find?_some h

theorem slot?_setRun (t : Tasks J P) (name : String) (run : Option Nat) :
    (t.setRun name run).slot? name = (t.slot? name).map fun s => { s with run } := by
  have hcomp : ((·.task.name == name) ∘ fun s : Slot J =>
      if s.task.name == name then { s with run } else s) = (·.task.name == name) := by
    funext s
    simp only [Function.comp]
    split <;> rfl
  unfold slot? setRun
  rw [List.find?_map, hcomp]
  cases h : t.slots.find? (·.task.name == name) with
  | none => rfl
  | some s =>
    have hs : s.task.name = name := slot?_name h
    simp [hs]

theorem slot?_setRun_other (t : Tasks J P) {name other : String} (hne : other ≠ name)
    (run : Option Nat) : (t.setRun other run).slot? name = t.slot? name := by
  have hcomp : ((·.task.name == name) ∘ fun s : Slot J =>
      if s.task.name == other then { s with run } else s) = (·.task.name == name) := by
    funext s
    simp only [Function.comp]
    split <;> rfl
  unfold slot? setRun
  rw [List.find?_map, hcomp]
  cases h : t.slots.find? (·.task.name == name) with
  | none => rfl
  | some s =>
    have hs : s.task.name = name := slot?_name h
    have hso : s.task.name ≠ other := by
      rw [hs]
      exact hne.symm
    simp [hso]

theorem find?_putSlot (s : Slot J) (slots : List (Slot J)) :
    (putSlot s slots).find? (·.task.name == s.task.name) = some s := by
  induction slots with
  | nil => simp [putSlot]
  | cons x xs ih =>
    unfold putSlot
    split
    · simp
    · rename_i hne
      simp only [List.find?_cons, hne]
      exact ih

theorem find?_putSlot_other {s : Slot J} {name : String} (h : s.task.name ≠ name)
    (slots : List (Slot J)) :
    (putSlot s slots).find? (·.task.name == name) = slots.find? (·.task.name == name) := by
  have hs : (s.task.name == name) = false := by simpa using h
  induction slots with
  | nil => simp [putSlot, h]
  | cons x xs ih =>
    unfold putSlot
    split
    · rename_i heq
      have hx : (x.task.name == name) = false := by
        rw [beq_iff_eq.mp heq]
        exact hs
      simp only [List.find?_cons, hs, hx]
    · simp only [List.find?_cons, ih]

/-- Gives a task a new loop, which waits for the last one. -/
def launch (t : Tasks J P) (name : String) (s : Slot J) : Tasks J P :=
  { (t.setRun name (some t.loops.length)) with
    loops := t.loops ++ [⟨s.task, s.token, false, s.run, .queued⟩] }

theorem start_eq_launch {t : Tasks J P} {cancelled : List String} {name : String} {s : Slot J}
    (h : t.shutDown = false) (hs : t.slot? name = some s)
    (hlive : (s.run.map (t.isLive cancelled)).getD false = false) :
    t.start cancelled name = .ok (t.launch name s) := by
  unfold start
  rw [h, hs]
  simp only [hlive]
  rfl

/-- All that can come of starting a task. -/
theorem start_cases {t t' : Tasks J P} {cancelled : List String} {name : String}
    (hs : t.start cancelled name = .ok t') :
    t.shutDown = false ∧ ∃ s, t.slot? name = some s ∧
      (t' = t ∨ (s.run.map (t.isLive cancelled)).getD false = false ∧ t' = t.launch name s) := by
  cases hshut : t.shutDown with
  | true => simp [start, hshut] at hs
  | false =>
    cases hslot : t.slot? name with
    | none => simp [start, hshut, hslot] at hs
    | some s =>
      refine ⟨rfl, s, rfl, ?_⟩
      cases hlive : (s.run.map (t.isLive cancelled)).getD false with
      | true =>
        simp only [start, hshut, hslot, hlive, if_true, Bool.false_eq_true, if_false] at hs
        exact Or.inl (Except.ok.inj hs).symm
      | false =>
        rw [start_eq_launch hshut hslot hlive] at hs
        exact Or.inr ⟨rfl, (Except.ok.inj hs).symm⟩

theorem slot?_launch {t : Tasks J P} {name : String} {s : Slot J} (hs : t.slot? name = some s) :
    (t.launch name s).slot? name = some { s with run := some t.loops.length } := by
  have h := slot?_setRun t name (some t.loops.length)
  rw [hs] at h
  exact h

theorem getElem?_launch (t : Tasks J P) (name : String) (s : Slot J) (i : Nat) :
    (t.launch name s).loops[i]? =
      if i = t.loops.length then some ⟨s.task, s.token, false, s.run, .queued⟩
      else t.loops[i]? := by
  simp only [launch]
  split
  · rename_i hi
    rw [hi, List.getElem?_concat_length]
  · rename_i hi
    rcases Nat.lt_or_ge i t.loops.length with hlt | hge
    · rw [List.getElem?_append_left hlt]
    · rw [List.getElem?_eq_none hge, List.getElem?_eq_none]
      simp only [List.length_append, List.length_singleton]
      omega

/-- The loops after a launch are the new one and those from before. -/
theorem hasLoop_launch {t : Tasks J P} {name n : String} {s : Slot J} {i : Nat} {l : Loop J P}
    (h : (t.launch name s).HasLoop n i l) :
    (i = t.loops.length ∧ l = ⟨s.task, s.token, false, s.run, .queued⟩) ∨
      (i < t.loops.length ∧ t.HasLoop n i l) := by
  obtain ⟨h1, h2⟩ := h
  rw [getElem?_launch] at h1
  split at h1
  · rename_i hi
    exact Or.inl ⟨hi, (Option.some.inj h1).symm⟩
  · obtain ⟨hlt, _⟩ := List.getElem?_eq_some_iff.mp h1
    exact Or.inr ⟨hlt, h1, h2⟩

theorem HasLoop.launch {t : Tasks J P} {name n : String} {i : Nat} {l : Loop J P}
    (h : t.HasLoop n i l) (s : Slot J) : (t.launch name s).HasLoop n i l := by
  refine ⟨?_, h.2⟩
  obtain ⟨hlt, _⟩ := List.getElem?_eq_some_iff.mp h.1
  rw [getElem?_launch, if_neg (Nat.ne_of_lt hlt)]
  exact h.1

theorem hasLoop_launch_new {t : Tasks J P} {name : String} {s : Slot J}
    (hs : t.slot? name = some s) :
    (t.launch name s).HasLoop name t.loops.length ⟨s.task, s.token, false, s.run, .queued⟩ := by
  refine ⟨?_, slot?_name hs⟩
  rw [getElem?_launch, if_pos rfl]

theorem Chained.launch {t : Tasks J P} {name : String} (h : t.Chained name) {s : Slot J}
    (hs : t.slot? name = some s) : (t.launch name s).Chained name := by
  constructor
  · intro a b la lb ha hb hab
    rcases hasLoop_launch hb with ⟨rfl, rfl⟩ | ⟨hlt, hkb⟩
    · rcases hasLoop_launch ha with ⟨hal, _⟩ | ⟨_, hka⟩
      · omega
      · obtain ⟨p, k, hrun, h1, hk⟩ := h.latest hs hka
        obtain ⟨hp, _⟩ := List.getElem?_eq_some_iff.mp hk.1
        exact ⟨p, k, hrun, h1, hp, hk.launch s⟩
    · rcases hasLoop_launch ha with ⟨hal, _⟩ | ⟨_, hka⟩
      · omega
      · obtain ⟨p, k, hprev, h1, h2, hk⟩ := h.linked hka hkb hab
        exact ⟨p, k, hprev, h1, h2, hk.launch s⟩
  · intro a b la lb ha hb hab hbq
    rcases hasLoop_launch hb with ⟨rfl, rfl⟩ | ⟨hlt, hkb⟩
    · exact absurd rfl hbq
    · rcases hasLoop_launch ha with ⟨hal, _⟩ | ⟨_, hka⟩
      · omega
      · exact h.ordered hka hkb hab hbq
  · intro s' a la hs' ha
    rw [slot?_launch hs] at hs'
    cases hs'
    refine ⟨t.loops.length, _, rfl, ?_, hasLoop_launch_new hs⟩
    rcases hasLoop_launch ha with ⟨hal, _⟩ | ⟨hlt, _⟩ <;> omega
  · intro s' p hs' hrun
    rw [slot?_launch hs] at hs'
    cases hs'
    cases hrun
    exact ⟨_, hasLoop_launch_new hs⟩

/-! ## What every loop is like -/

/-- What slots and loops are like. -/
structure Each (S : Slot J → Prop) (L : Loop J P → Prop) (t : Tasks J P) : Prop where
  slots : ∀ s ∈ t.slots, S s
  loops : ∀ l ∈ t.loops, L l

/-- What slots and loops are like is the same before and after a start or a stop. -/
structure Lasting (S : Slot J → Prop) (L : Loop J P → Prop) : Prop where
  run : ∀ (s : Slot J) (run : Option Nat), S s → S { s with run }
  stop : ∀ l : Loop J P, L l → L { l with stopped := true }
  launch : ∀ s : Slot J, S s → L ⟨s.task, s.token, false, s.run, .queued⟩

section

variable {S : Slot J → Prop} {L : Loop J P → Prop} {t t' : Tasks J P}

theorem Each.alter (h : t.Each S L) (i : Nat) {f : Loop J P → Loop J P}
    (hf : ∀ l ∈ t.loops, L (f l)) : (t.alter i f).Each S L := by
  refine ⟨h.slots, ?_⟩
  intro l hl
  obtain ⟨j, hj⟩ := List.mem_iff_getElem?.mp hl
  rw [getElem?_alter, Option.map_eq_some_iff] at hj
  obtain ⟨k, hk, rfl⟩ := hj
  have hmem : k ∈ t.loops := List.mem_of_getElem? hk
  split
  · exact hf k hmem
  · exact h.loops k hmem

theorem Each.stopLoop (h : t.Each S L) (hstop : ∀ l : Loop J P, L l → L { l with stopped := true })
    (i : Nat) : (t.stopLoop i).Each S L := by
  rw [stopLoop_eq_alter]
  exact h.alter i fun l hl => hstop l (h.loops l hl)

theorem Each.stop (h : t.Each S L) (hstop : ∀ l : Loop J P, L l → L { l with stopped := true })
    {name : String} (hs : t.stop name = .ok t') : t'.Each S L := by
  unfold Tasks.stop at hs
  split at hs
  · cases hs
  · rename_i s _
    cases hs
    cases s.run with
    | none => exact h
    | some i => exact h.stopLoop hstop i

theorem Each.start (h : t.Each S L) (hlast : Lasting S L) {cancelled : List String}
    {name : String} (hs : t.start cancelled name = .ok t') : t'.Each S L := by
  obtain ⟨_, s, hslot, rfl | ⟨_, rfl⟩⟩ := start_cases hs
  · exact h
  · have hown : S s := h.slots s (List.mem_of_find?_eq_some hslot)
    constructor
    · intro s' hs'
      obtain ⟨k, hk, rfl⟩ := List.mem_map.mp hs'
      split
      · exact hlast.run k _ (h.slots k hk)
      · exact h.slots k hk
    · intro l hl
      rcases List.mem_append.mp hl with hl | hl
      · exact h.loops l hl
      · rw [List.mem_singleton.mp hl]
        exact hlast.launch s hown

theorem mem_putSlot {s x : Slot J} {slots : List (Slot J)} (h : x ∈ putSlot s slots) :
    x = s ∨ x ∈ slots := by
  induction slots with
  | nil => exact .inl (List.mem_singleton.mp h)
  | cons y slots ih =>
    unfold putSlot at h
    split at h
    · rcases List.mem_cons.mp h with rfl | h
      · exact .inl rfl
      · exact .inr (List.mem_cons_of_mem _ h)
    · rcases List.mem_cons.mp h with rfl | h
      · exact .inr List.mem_cons_self
      · exact (ih h).imp_right (List.mem_cons_of_mem _)

theorem Each.configure (h : t.Each S L)
    (hstop : ∀ l : Loop J P, L l → L { l with stopped := true }) {task : TaskSpec J}
    {token : String} (hs : S ⟨task, token, none⟩) : (t.configure task token).Each S L := by
  have hput : ∀ {u : Tasks J P}, u.Each S L →
      Each S L { u with slots := putSlot ⟨task, token, none⟩ u.slots } := by
    intro u hu
    refine ⟨?_, hu.loops⟩
    intro s hmem
    rcases mem_putSlot hmem with rfl | hmem
    · exact hs
    · exact hu.slots s hmem
  unfold Tasks.configure
  split
  · exact hput (h.stopLoop hstop _)
  · exact hput h

theorem Each.configureAndStart (h : t.Each S L) (hlast : Lasting S L) {task : TaskSpec J}
    {token : String} (hs : S ⟨task, token, none⟩) (cancelled : List String) :
    (t.configureAndStart cancelled task token).Each S L := by
  have hconfigured : (t.configure task token).Each S L := h.configure hlast.stop hs
  unfold Tasks.configureAndStart
  simp only
  split
  · rename_i u hu
    exact hconfigured.start hlast hu
  · exact hconfigured

theorem Each.close (h : t.Each S L) (hlast : Lasting S L) : t.close.Each S L := by
  have hstopped : ∀ (runs : List (String × Nat)) {t : Tasks J P}, t.Each S L →
      (runs.foldl (fun t r => t.stopLoop r.2) t).Each S L := by
    intro runs
    induction runs with
    | nil => exact fun ht => ht
    | cons run runs ih => exact fun ht => ih (ht.stopLoop hlast.stop run.2)
  have hall := hstopped t.runs h
  refine ⟨?_, hall.loops⟩
  intro s hs
  obtain ⟨k, hk, rfl⟩ := List.mem_map.mp hs
  exact hlast.run k none (hall.slots k hk)

end

end Tasks

end ToggleSync
