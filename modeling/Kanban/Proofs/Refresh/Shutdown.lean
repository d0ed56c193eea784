import Kanban.Proofs.Refresh.Cadence
import Kanban.Refresh.Channel
import Mathlib.Data.List.Induction

/-!
# `Proofs.Refresh.Shutdown` — how a background run is shut down

A background run ends when it hears that it shall stop, or that nothing more is said. What it hears is the
latest word, so a word may be overtaken by another one before it is heard, and nobody asks for the value that
a channel has before anything is sent.

What carries this over a run is that a word is either still to be heard, or was heard and was not to stop. A
run that goes on, with no end of all words and no word to stop before it, goes on until one of them comes.

## Contents
- `Listener.told_turn`, `Listener.told_step`, `Listener.told_run`: a channel has to say what a refresher hears,
  so its first value makes no difference.
- `step_cases`, `ended_step`, `ended_run`: once a run has ended, it has. `Going`, `going_step`, `going_run`: one
  that goes on.
- `lastWord`, `closed_run`, `HeldOrHeard`, `heldOrHeard_run`: the last word of a whole run is held, or it was
  heard.
- `words`, `agenda`, `turn_agenda`, `choosing`, `parked_of_agenda`: how much a run has to do until it is parked.
- `shutdown_heeded`: whole runs.
-/

namespace Kanban

/-! ## Through a channel -/

namespace Channel

theorem audible_shutdown (c : Channel) : c.shutdown.audible = c.news?.isSome := by
  unfold Shutdown.audible shutdown news?
  by_cases hseen : c.seen < c.sent
  · simp [hseen]
  · cases hclosed : c.closed <;> simp [hseen]

theorem shutdown_send (c : Channel) (value : Bool) :
    (c.send value).shutdown = ⟨some value, c.shutdown.closed⟩ := by
  have hseen : (c.send value).seen < (c.send value).sent := Nat.lt_succ_of_le c.seen_le
  unfold shutdown
  rw [if_pos hseen]
  rfl

theorem shutdown_look (c : Channel) : c.look.shutdown = ⟨none, c.shutdown.closed⟩ := by
  have hseen : ¬ c.look.seen < c.look.sent := Nat.lt_irrefl _
  unfold shutdown
  rw [if_neg hseen]
  rfl

/-- A channel with an unseen value has that value to say. -/
theorem unheard_of_fresh {c : Channel} (h : c.news? = some .fresh) : c.shutdown.unheard = some c.value := by
  unfold news? at h
  by_cases hseen : c.seen < c.sent
  · simp [shutdown, hseen]
  · rw [if_neg hseen] at h
    split at h <;> cases h

theorem unheard_of_closed {c : Channel} (h : c.news? = some .closed) : c.shutdown.unheard = none := by
  unfold news? at h
  by_cases hseen : c.seen < c.sent
  · rw [if_pos hseen] at h
    cases h
  · simp [shutdown, hseen]

end Channel

namespace Listener

variable {l : Listener}

/-- Being told and then looking is hearing. -/
theorem told_hear {news : Channel.News} (h : l.channel.news? = some news) :
    (l.hear news).told = l.told.hear := by
  unfold hear Refresher.hear
  cases news with
  | closed =>
    rw [show l.told.shutdown.unheard = none from Channel.unheard_of_closed h]
    rfl
  | fresh =>
    rw [show l.told.shutdown.unheard = some l.channel.value from Channel.unheard_of_fresh h]
    cases hvalue : l.channel.value with
    | true =>
      rw [if_pos (show l.channel.stops .fresh = true from hvalue)]
      rfl
    | false =>
      rw [if_neg (show ¬ l.channel.stops .fresh = true by simp [Channel.stops, hvalue])]
      show { l.refresher with shutdown := l.channel.look.shutdown } = _
      rw [Channel.shutdown_look]
      rfl

theorem told_turn (l : Listener) (a : Activity) (tickFirst : Bool) :
    l.told.turn a tickFirst = (l.turn a tickFirst).map told := by
  have haudible : l.told.shutdown.audible = l.channel.news?.isSome := l.channel.audible_shutdown
  cases hb : l.refresher.background with
  | notStarted =>
    have ht : l.told.background = .notStarted := hb
    simp only [turn, Refresher.turn, hb, ht, Option.map_none]
  | ended =>
    have ht : l.told.background = .ended := hb
    simp only [turn, Refresher.turn, hb, ht, Option.map_none]
  | calling finish next =>
    have ht : l.told.background = .calling finish next := hb
    rw [Refresher.turn_of_calling ht, turn, hb]
    show _ = Option.map told (if finish ≤ l.told.now then _ else _)
    rw [apply_ite (Option.map told)]
    rfl
  | resting next =>
    have ht : l.told.background = .resting next := hb
    rw [Refresher.turn_of_resting ht, turn, hb, haudible, Option.not_isSome]
    show _ = Option.map told (if (decide (next ≤ l.told.now) && _) = true then _ else _)
    rw [apply_ite (Option.map told)]
    refine if_congr Iff.rfl rfl ?_
    cases hnews : l.channel.news? with
    | none => rfl
    | some news =>
      rw [← told_hear hnews]
      rfl

theorem told_step (l : Listener) (a : Activity) (e : Refresher.Event) :
    (l.step a e).told = l.told.step a e := by
  cases e with
  | turn tickFirst =>
    show ((l.turn a tickFirst).getD l).told = (l.told.turn a tickFirst).getD l.told
    rw [told_turn, Option.getD_map]
  | pass ms =>
    show told (if (l.turn a true).isNone then _ else l) = if (l.told.turn a true).isNone then _ else _
    rw [told_turn, Option.isNone_map, apply_ite told]
    rfl
  | send value =>
    show told (if l.refresher.listening then _ else l) = if l.refresher.listening then _ else _
    rw [apply_ite told]
    refine if_congr Iff.rfl ?_ rfl
    show { l.refresher with shutdown := (l.channel.send value).shutdown } = _
    rw [Channel.shutdown_send]
    rfl
  | start =>
    show { l.refresher.start with shutdown := l.channel.shutdown } = l.told.start
    unfold Refresher.start told
    cases l.refresher.background <;> rfl
  | close => rfl
  | tick => rfl
  | setFailing on => rfl
  | setDelay ms => rfl

/-- **A refresher that listens to a channel** does what it does when it is told what the channel has to say. -/
theorem told_run (l : Listener) (events : List (Activity × Refresher.Event)) :
    (l.run events).told = l.told.run events := by
  induction events generalizing l with
  | nil => rfl
  | cons x rest ih =>
    show ((l.step x.1 x.2).run rest).told = (l.told.step x.1 x.2).run rest
    rw [ih, told_step]

end Listener

namespace Refresher

variable {r r' : Refresher} {a : Activity} {e : Event}

/-! ## What is said -/

/-- The word that is sent in an event. -/
def Event.word : Event → Option Bool
  | .send value => some value
  | _ => none

/-- Whether nothing more is said after an event. -/
def Event.closes : Event → Bool
  | .close => true
  | _ => false

/-- The last word of several events. -/
def lastWord (events : List (Activity × Event)) : Option Bool := (events.filterMap (·.2.word)).getLast?

theorem lastWord_snoc (events : List (Activity × Event)) (x : Activity × Event) :
    lastWord (events ++ [x]) = x.2.word.or (lastWord events) := by
  unfold lastWord
  rw [List.filterMap_append]
  cases hword : x.2.word with
  | none => simp [hword]
  | some value => simp [hword]

/-- What there is to hear after an event: the word of the event, or else what there was before, unless it was
    heard and not to stop. -/
theorem step_shutdown (r : Refresher) (a : Activity) (e : Event) :
    (r.step a e).shutdown.closed = (r.shutdown.closed || e.closes) ∧
      ((r.step a e).background = .ended ∨ (r.step a e).shutdown.unheard = e.word.or r.shutdown.unheard ∨
        e.word = none ∧ r.shutdown.unheard = some false ∧ (r.step a e).shutdown.unheard = none) := by
  have hsame : ∀ {q : Refresher}, q.shutdown = r.shutdown → q.shutdown.closed = (r.shutdown.closed || false) ∧
      (q.background = .ended ∨ q.shutdown.unheard = (none : Option Bool).or r.shutdown.unheard ∨
        (none : Option Bool) = none ∧ r.shutdown.unheard = some false ∧ q.shutdown.unheard = none) := by
    intro q hq
    rw [hq, Bool.or_false, Option.none_or]
    exact ⟨rfl, Or.inr (Or.inl rfl)⟩
  cases e with
  | turn tickFirst =>
    cases ht : r.turn a tickFirst with
    | none => rw [step_of_no_turn ht]; exact hsame rfl
    | some r' =>
      rw [step_of_turn ht]
      obtain ⟨_, _, _, _, rfl⟩ | ⟨_, _, _, _, rfl⟩ | ⟨_, _, _, _, rfl⟩ := turn_cases ht
      · exact hsame rfl
      · exact hsame rfl
      · unfold hear
        cases hw : r.shutdown.unheard with
        | none => exact ⟨(Bool.or_false _).symm, Or.inl rfl⟩
        | some word =>
          cases word with
          | true => exact ⟨(Bool.or_false _).symm, Or.inl rfl⟩
          | false => exact ⟨(Bool.or_false _).symm, Or.inr (Or.inr ⟨rfl, rfl, rfl⟩)⟩
  | pass ms =>
    unfold step
    dsimp only
    split <;> exact hsame rfl
  | start =>
    unfold step Refresher.start
    dsimp only
    split <;> exact hsame rfl
  | send value =>
    unfold step send listening
    dsimp only
    by_cases hb : r.background = .ended
    · rw [if_neg (by simp [hb])]
      exact ⟨(Bool.or_false _).symm, Or.inl hb⟩
    · rw [if_pos (by simp [hb])]
      exact ⟨(Bool.or_false _).symm, Or.inr (Or.inl rfl)⟩
  | close => exact ⟨(Bool.or_true _).symm, Or.inr (Or.inl rfl)⟩
  | tick => exact hsame rfl
  | setFailing on => exact hsame rfl
  | setDelay ms => exact hsame rfl

theorem closed_run (r : Refresher) (events : List (Activity × Event)) :
    (r.run events).shutdown.closed = (r.shutdown.closed || events.any (·.2.closes)) := by
  induction events generalizing r with
  | nil => exact (Bool.or_false _).symm
  | cons x rest ih =>
    show ((r.step x.1 x.2).run rest).shutdown.closed = _
    rw [ih, (r.step_shutdown x.1 x.2).1, Bool.or_assoc, List.any_cons]

/-! ## Once it has ended -/

/-- Besides turns, nothing makes ticks of a run or changes the interval, and what the run is at changes only with
    its start. -/
theorem step_cases (r : Refresher) (a : Activity) (e : Event) :
    (∃ tickFirst, e = .turn tickFirst ∧ r.turn a tickFirst = some (r.step a e)) ∨
    (r.step a e).ownTicks = r.ownTicks ∧ (r.step a e).schedule.interval = r.schedule.interval ∧
      ((r.step a e).background = r.background ∨ r.background = .notStarted) := by
  cases e with
  | turn tickFirst =>
    cases ht : r.turn a tickFirst with
    | none =>
      rw [step_of_no_turn ht]
      exact Or.inr ⟨rfl, rfl, Or.inl rfl⟩
    | some r' =>
      rw [step_of_turn ht]
      exact Or.inl ⟨tickFirst, rfl, ht⟩
  | pass ms =>
    refine Or.inr ?_
    unfold step
    dsimp only
    split <;> exact ⟨rfl, rfl, Or.inl rfl⟩
  | start =>
    refine Or.inr ?_
    unfold step Refresher.start
    dsimp only
    split
    · exact ⟨rfl, rfl, Or.inr ‹_›⟩
    · exact ⟨rfl, rfl, Or.inl rfl⟩
  | send value =>
    refine Or.inr ?_
    unfold step send
    dsimp only
    split <;> exact ⟨rfl, rfl, Or.inl rfl⟩
  | tick => exact Or.inr ⟨rfl, rfl, Or.inl rfl⟩
  | close => exact Or.inr ⟨rfl, rfl, Or.inl rfl⟩
  | setFailing on => exact Or.inr ⟨rfl, rfl, Or.inl rfl⟩
  | setDelay ms => exact Or.inr ⟨rfl, rfl, Or.inl rfl⟩

/-- A run that has ended does nothing more. -/
theorem ended_step (h : r.background = .ended) (a : Activity) (e : Event) :
    (r.step a e).background = .ended ∧ (r.step a e).ownTicks = r.ownTicks := by
  obtain ⟨tickFirst, -, ht⟩ | ⟨hticks, -, hsame | hnot⟩ := r.step_cases a e
  · have hnone : r.turn a tickFirst = none := turn_eq_none_iff.mpr (Or.inr (Or.inl h))
    rw [hnone] at ht
    cases ht
  · exact ⟨hsame.trans h, hticks⟩
  · rw [h] at hnot
    cases hnot

theorem ended_run (h : r.background = .ended) (events : List (Activity × Event)) :
    (r.run events).background = .ended ∧ (r.run events).ownTicks = r.ownTicks := by
  induction events generalizing r with
  | nil => exact ⟨h, rfl⟩
  | cons x rest ih =>
    obtain ⟨hended, hticks⟩ := ended_step h x.1 x.2
    obtain ⟨hended', hticks'⟩ := ih hended
    exact ⟨hended', hticks'.trans hticks⟩

/-! ## While it goes on -/

/-- **A run that goes on:** it has not ended, and there is neither a word to stop nor the end of all words. -/
structure Going (r : Refresher) : Prop where
  background : r.background ≠ .ended
  closed : r.shutdown.closed = false
  unheard : r.shutdown.unheard ≠ some true

theorem going_step (h : r.Going) (a : Activity) (hstop : e ≠ .send true) (hclose : e ≠ .close) :
    (r.step a e).Going := by
  obtain ⟨hclosed, hheard⟩ := r.step_shutdown a e
  have hon : (r.step a e).background ≠ .ended := by
    intro hended
    -- Neither of the two things that end a run is there to be heard.
    obtain hbefore | ⟨-, hword | ⟨-, hover⟩⟩ := step_ends hended
    · exact h.background hbefore
    · exact h.unheard hword
    · rw [h.closed] at hover
      cases hover
  refine ⟨hon, ?_, ?_⟩
  · rw [hclosed, h.closed]
    cases e with
    | close => exact absurd rfl hclose
    | _ => rfl
  · obtain hended | hword | ⟨-, -, hnone⟩ := hheard
    · exact absurd hended hon
    · rw [hword]
      cases e with
      | send value =>
        intro hvalue
        exact hstop (by rw [Option.some.inj hvalue])
      | _ => exact h.unheard
    · rw [hnone]
      simp

theorem going_run (h : r.Going) {events : List (Activity × Event)}
    (hes : ∀ x ∈ events, x.2 ≠ .send true ∧ x.2 ≠ .close) : (r.run events).Going := by
  induction events generalizing r with
  | nil => exact h
  | cons x rest ih =>
    obtain ⟨hstop, hclose⟩ := hes x List.mem_cons_self
    exact ih (going_step h x.1 hstop hclose) fun y hy => hes y (List.mem_cons_of_mem _ hy)

/-- Whatever there was to be heard, a word to go on is heard in its place. -/
theorem going_send (h : r.background ≠ .ended) (hclosed : r.shutdown.closed = false) (a : Activity) :
    (r.step a (.send false)).Going := by
  have hsend : r.step a (.send false) = { r with shutdown := { r.shutdown with unheard := some false } } := by
    show (if r.listening then _ else r) = _
    rw [if_pos (by simp [listening, h])]
  rw [hsend]
  exact ⟨h, hclosed, by simp⟩

/-- The last word is held for a run to hear, or it was heard and was not to stop. A run that has ended hears
    nothing more. -/
def HeldOrHeard (last : Option Bool) (r : Refresher) : Prop :=
  r.background = .ended ∨ r.shutdown.unheard = last ∨ r.shutdown.unheard = none ∧ last = some false

theorem heldOrHeard_step {last : Option Bool} (h : r.HeldOrHeard last) (a : Activity) (e : Event) :
    (r.step a e).HeldOrHeard (e.word.or last) := by
  obtain hended | hlast := h
  · exact Or.inl (ended_step hended a e).1
  obtain hended | hword | ⟨hword, hfalse, hnone⟩ := (r.step_shutdown a e).2
  · exact Or.inl hended
  · cases hsaid : e.word with
    | some value =>
      rw [hsaid] at hword
      exact Or.inr (Or.inl hword)
    | none =>
      rw [hsaid] at hword
      exact Or.inr (hlast.imp hword.trans fun h => ⟨hword.trans h.1, h.2⟩)
  · -- The word is heard, so it was the last one.
    rw [hword]
    obtain hlast | ⟨hquiet, -⟩ := hlast
    · exact Or.inr (Or.inr ⟨hnone, hlast.symm.trans hfalse⟩)
    · rw [hquiet] at hfalse
      cases hfalse

theorem heldOrHeard_run (p : Nat) (events : List (Activity × Event)) :
    ((new p).run events).HeldOrHeard (lastWord events) := by
  induction events using List.reverseRecOn with
  | nil => exact Or.inr (Or.inl rfl)
  | append_singleton events x ih =>
    rw [run_append, lastWord_snoc]
    exact heldOrHeard_step ih x.1 x.2

/-! ## Until it is parked -/

/-- How many things there are to be heard, one after the other. -/
def words (r : Refresher) : Nat :=
  (if r.shutdown.unheard.isSome then 1 else 0) + if r.shutdown.closed then 1 else 0

/-- How many things a background run has to do at a moment: the end of a call, a tick, and what is to be
    heard. -/
def agenda (r : Refresher) : Nat :=
  match r.background with
  | .calling finish next => if finish ≤ r.now then 1 + (if next ≤ r.now then 1 else 0) + r.words else 0
  | .resting next => (if next ≤ r.now then 1 else 0) + r.words
  | .notStarted | .ended => 0

theorem agenda_le (r : Refresher) : r.agenda ≤ 4 := by
  unfold agenda words
  repeat' split
  all_goals omega

/-- After a tick the run rests, unless the call of the sink takes time. -/
theorem afterTick_cases (r : Refresher) (t : Tick) :
    r.afterTick t = .resting (r.schedule.dueAfter r.now) ∨
      ∃ finish, r.now < finish ∧ r.afterTick t = .calling finish (r.schedule.dueAfter r.now) := by
  unfold afterTick
  cases t.call with
  | none => exact Or.inl rfl
  | some delay =>
    cases delay with
    | zero => exact Or.inl rfl
    | succ n => exact Or.inr ⟨r.now + (n + 1), by omega, rfl⟩

theorem agenda_backgroundTick (hp : 0 < r.schedule.interval) (a : Activity) :
    (r.backgroundTick a).agenda ≤ r.words := by
  have hlater := Nat.not_le.mpr (r.schedule.lt_dueAfter r.now hp)
  obtain hrest | ⟨finish, hfinish, hcall⟩ := r.afterTick_cases (r.tickNow a true)
  · have hb : (r.backgroundTick a).background = .resting (r.schedule.dueAfter r.now) := hrest
    rw [agenda, hb]
    show (if r.schedule.dueAfter r.now ≤ r.now then 1 else 0) + r.words ≤ r.words
    rw [if_neg hlater, Nat.zero_add]
  · have hb : (r.backgroundTick a).background = .calling finish (r.schedule.dueAfter r.now) := hcall
    rw [agenda, hb]
    show (if finish ≤ r.now then _ else 0) ≤ r.words
    rw [if_neg (Nat.not_le.mpr hfinish)]
    exact Nat.zero_le _

/-- What is heard is one thing less to hear, or it ends the run. -/
theorem words_hear (h : r.shutdown.audible = true) :
    0 < r.words ∧ (r.hear.background = .ended ∨
      r.hear.background = r.background ∧ r.hear.now = r.now ∧ r.hear.words < r.words) := by
  unfold hear words
  cases hw : r.shutdown.unheard with
  | none =>
    have hclosed : r.shutdown.closed = true := by simpa [Shutdown.audible, hw] using h
    exact ⟨by simp [hclosed], Or.inl rfl⟩
  | some word =>
    cases word with
    | true => exact ⟨Nat.add_pos_left Nat.one_pos _, Or.inl rfl⟩
    | false => exact ⟨Nat.add_pos_left Nat.one_pos _, Or.inr ⟨rfl, rfl, by simp⟩⟩

/-- **Every turn does one of these things.** -/
theorem turn_agenda {tickFirst : Bool} (hp : 0 < r.schedule.interval) (h : r.turn a tickFirst = some r') :
    r'.agenda < r.agenda := by
  obtain ⟨finish, next, hb, hover, rfl⟩ | ⟨next, hb, hdue, -, rfl⟩ | ⟨next, hb, -, haudible, rfl⟩ :=
    turn_cases h
  · have hbefore : r.agenda = 1 + (if next ≤ r.now then 1 else 0) + r.words := by
      rw [agenda, hb]
      exact if_pos hover
    have hafter : agenda { r with background := .resting next } = (if next ≤ r.now then 1 else 0) + r.words :=
      rfl
    omega
  · have hbefore : r.agenda = 1 + r.words := by
      rw [agenda, hb]
      exact congrArg (· + r.words) (if_pos hdue)
    have hafter := agenda_backgroundTick hp a
    omega
  · have hbefore : r.agenda = (if next ≤ r.now then 1 else 0) + r.words := by rw [agenda, hb]
    obtain ⟨hsome, hended | ⟨hsame, hnow, hless⟩⟩ := words_hear haudible
    · have hafter : r.hear.agenda = 0 := by rw [agenda, hended]
      omega
    · have hafter : r.hear.agenda = (if next ≤ r.now then 1 else 0) + r.hear.words := by
        rw [agenda, hsame, hb, hnow]
      omega

theorem interval_step (r : Refresher) (a : Activity) (e : Event) :
    (r.step a e).schedule.interval = r.schedule.interval := by
  obtain ⟨tickFirst, -, ht⟩ | ⟨-, hsame, -⟩ := r.step_cases a e
  · obtain ⟨_, _, _, _, hr'⟩ | ⟨_, _, _, _, hr'⟩ | ⟨_, _, _, _, hr'⟩ := turn_cases ht
    · rw [hr']
    · rw [hr']
      rfl
    · rw [hr', hear]
      split <;> rfl
  · exact hsame

theorem interval_run (r : Refresher) (events : List (Activity × Event)) :
    (r.run events).schedule.interval = r.schedule.interval := by
  induction events generalizing r with
  | nil => rfl
  | cons x rest ih => exact (ih (r.step x.1 x.2)).trans (r.interval_step x.1 x.2)

/-- Turns, each with what comes first in it. -/
def choosing (a : Activity) (choices : List Bool) : List (Activity × Event) :=
  choices.map fun first => (a, .turn first)

/-- A run has nothing to do in either order, or in none. -/
theorem parked_of_no_turn {tickFirst : Bool} (h : r.turn a tickFirst = none) : r.parked a = true :=
  Option.isNone_iff_eq_none.mpr (turn_eq_none_iff.mpr (turn_eq_none_iff.mp h))

theorem run_of_parked (h : r.parked a = true) (choices : List Bool) :
    r.run (choosing a choices) = r := by
  have hnone : ∀ first, r.turn a first = none := fun first =>
    turn_eq_none_iff.mpr (turn_eq_none_iff.mp (Option.isNone_iff_eq_none.mp h))
  induction choices with
  | nil => rfl
  | cons first rest ih =>
    show (r.step a (.turn first)).run (choosing a rest) = r
    rw [step_of_no_turn (hnone first), ih]

/-- **A run is parked** after as many turns as it has things to do, whatever comes first. -/
theorem parked_of_agenda (hp : 0 < r.schedule.interval) (a : Activity) {choices : List Bool}
    (h : r.agenda ≤ choices.length) : (r.run (choosing a choices)).parked a = true := by
  induction choices generalizing r with
  | nil =>
    cases ht : r.turn a true with
    | none => exact parked_of_no_turn ht
    | some r' =>
      have hless := turn_agenda hp ht
      simp only [List.length_nil] at h
      omega
  | cons first rest ih =>
    show ((r.step a (.turn first)).run (choosing a rest)).parked a = true
    cases ht : r.turn a first with
    | none =>
      -- There is no turn in any other order, so the rest changes nothing.
      rw [step_of_no_turn ht, run_of_parked (parked_of_no_turn ht)]
      exact parked_of_no_turn ht
    | some r' =>
      have hless := turn_agenda hp ht
      have hinterval := r.interval_step a (.turn first)
      rw [step_of_turn ht] at hinterval ⊢
      refine ih (hinterval ▸ hp) ?_
      simp only [List.length_cons] at h
      omega

/-! ## Whole runs -/

theorem closed_new_run (p : Nat) (events : List (Activity × Event)) :
    ((new p).run events).shutdown.closed = true ↔ ∃ x ∈ events, x.2 = .close := by
  rw [closed_run]
  show events.any (·.2.closes) = true ↔ _
  rw [List.any_eq_true]
  refine exists_congr fun x => and_congr_right fun _ => ?_
  cases x.2 <;> simp [Event.closes]

/-- A run that is parked after a last word to stop, or after the end of all words, has ended, unless it is in
    a call of the sink. -/
theorem ended_of_parked {last : Option Bool} (h : r.HeldOrHeard last) (hstarted : r.background ≠ .notStarted)
    (hparked : r.parked a = true) (hover : r.shutdown.closed = true ∨ last = some true) :
    r.background = .ended ∨ ∃ finish next, r.background = .calling finish next ∧ r.now < finish := by
  obtain hnot | hended | hcalling | ⟨next, -, -, hquiet⟩ :=
    turn_eq_none_iff.mp (Option.isNone_iff_eq_none.mp hparked)
  · exact absurd hnot hstarted
  · exact Or.inl hended
  · exact Or.inr hcalling
  -- While it rests there is nothing to hear, so neither of the two has happened.
  simp only [Shutdown.audible, Bool.or_eq_false_iff, Option.isSome_eq_false_iff, Option.isNone_iff_eq_none]
    at hquiet
  obtain hclosed | rfl := hover
  · rw [hquiet.2] at hclosed
    cases hclosed
  · obtain hended | hword | ⟨-, hfalse⟩ := h
    · exact Or.inl hended
    · rw [hquiet.1] at hword
      cases hword
    · cases hfalse

/-- Turns say nothing. -/
theorem heldOrHeard_turns {last : Option Bool} (h : r.HeldOrHeard last) (a : Activity) (choices : List Bool) :
    (r.run (choosing a choices)).HeldOrHeard last := by
  induction choices generalizing r with
  | nil => exact h
  | cons first rest ih => exact ih (heldOrHeard_step h a (.turn first))

theorem closed_turns (r : Refresher) (a : Activity) (choices : List Bool) :
    (r.run (choosing a choices)).shutdown.closed = r.shutdown.closed := by
  rw [closed_run, choosing, List.any_map]
  simp [Function.comp_def, Event.closes]

theorem started_turns (h : r.background ≠ .notStarted) (a : Activity) (choices : List Bool) :
    (r.run (choosing a choices)).background ≠ .notStarted := by
  induction choices generalizing r with
  | nil => exact h
  | cons first rest ih =>
    refine ih ?_
    show (r.step a (.turn first)).background ≠ .notStarted
    cases ht : r.turn a first with
    | none => rwa [step_of_no_turn ht]
    | some r' =>
      rw [step_of_turn ht]
      obtain ⟨_, _, _, _, rfl⟩ | ⟨_, _, _, _, rfl⟩ | ⟨_, _, _, haudible, rfl⟩ := turn_cases ht
      · simp
      · obtain hrest | ⟨_, _, hcall⟩ := r.afterTick_cases (r.tickNow a true)
        · simp [backgroundTick, hrest]
        · simp [backgroundTick, hcall]
      · obtain ⟨-, hended | ⟨hsame, -, -⟩⟩ := words_hear haudible
        · simp [hended]
        · rwa [hsame]

/-- **How a background run is shut down,** whatever is said before its start, while it rests and while the sink
    is called, however long calls take, and whichever comes first if a tick is due and there is something to
    hear.
    - Through a channel with any first value the same happens, so a first value to stop stops nothing.
    - A run ends only after a word to stop was said, or after nothing more could be said.
    - Whenever it is parked with no call of the sink going on and has not ended, more can be said, and the last
      word, if there is one, was not to stop.
    - It does get parked, after four turns at most. So if the last word was to stop, or nothing more can be said,
      it has ended then or at least is in a call of the sink.
    - After its end it makes no ticks, and so no calls of the sink.
    - A word to stop that it has not acted upon does not end it anymore once it is told to go on. Nothing ends
      it then until the next such word, or until nothing more can be said. -/
theorem shutdown_heeded (p : Nat) (events : List (Activity × Event)) :
    let r := (new p).run events
    (∀ first, ((Listener.new p first).run events).told = r) ∧
    (r.background = .ended → (∃ x ∈ events, x.2 = .send true) ∨ ∃ x ∈ events, x.2 = .close) ∧
    (∀ a, r.background ≠ .notStarted → (∀ finish next, r.background ≠ .calling finish next) →
      r.parked a = true → r.background ≠ .ended →
      ¬ (∃ x ∈ events, x.2 = .close) ∧ ∀ word, lastWord events = some word → word = false) ∧
    (0 < p → ∀ a (choices : List Bool), 4 ≤ choices.length →
      let q := r.run (choosing a choices)
      q.parked a = true ∧ (r.background ≠ .notStarted →
        (∃ x ∈ events, x.2 = .close) ∨ lastWord events = some true →
        q.background = .ended ∨ ∃ finish next, q.background = .calling finish next ∧ q.now < finish)) ∧
    (r.background = .ended → ∀ more, (r.run more).background = .ended ∧ (r.run more).ownTicks = r.ownTicks) ∧
    (r.background ≠ .ended → ¬ (∃ x ∈ events, x.2 = .close) →
      ∀ a more, (∀ x ∈ more, x.2 ≠ .send true ∧ x.2 ≠ .close) →
        (r.run ((a, .send false) :: more)).background ≠ .ended) := by
  intro r
  refine ⟨fun first => ?_, ?_, ?_, fun hp a choices hchoices => ?_, ended_run, ?_⟩
  · rw [Listener.told_run]
    rfl
  · intro hended
    by_contra hnone
    rw [not_or] at hnone
    have hgoing : r.Going := going_run (r := new p) ⟨by simp [new], rfl, by simp [new]⟩ fun x hx =>
      ⟨fun he => hnone.1 ⟨x, hx, he⟩, fun he => hnone.2 ⟨x, hx, he⟩⟩
    exact hgoing.background hended
  · intro a hstarted hcall hparked hon
    have hnot : ¬ ((∃ x ∈ events, x.2 = .close) ∨ lastWord events = some true) := by
      intro hover
      rw [← closed_new_run p] at hover
      obtain hended | ⟨finish, next, hcalling, -⟩ :=
        ended_of_parked (heldOrHeard_run p events) hstarted hparked hover
      · exact hon hended
      · exact hcall finish next hcalling
    rw [not_or] at hnot
    refine ⟨hnot.1, fun word hword => ?_⟩
    cases word with
    | false => rfl
    | true => exact absurd hword hnot.2
  · intro q
    have hparked : q.parked a = true := by
      refine parked_of_agenda ?_ a (Nat.le_trans r.agenda_le hchoices)
      rw [interval_run]
      exact hp
    refine ⟨hparked, fun hstarted hover => ?_⟩
    rw [← closed_new_run p, ← closed_turns r a choices] at hover
    have hlast := heldOrHeard_turns (heldOrHeard_run p events) a choices
    exact ended_of_parked hlast (started_turns hstarted a choices) hparked hover
  · intro hon hopen a more hmore
    have hclosed : r.shutdown.closed = false := by
      rw [← Bool.not_eq_true, closed_new_run]
      exact hopen
    exact (going_run (going_send hon hclosed a) hmore).background

/-- A word to stop before the start is overtaken by one to go on, and that one amid the first call of the sink
    by another one to stop. The call takes until 25, and by then the tick that was due at 10 is late. -/
def overtaken : List (Activity × Event) :=
  [(⟨0⟩, .setDelay 25), (⟨0⟩, .send true), (⟨0⟩, .send false), (⟨0⟩, .start), (⟨0⟩, .turn true), (⟨0⟩, .send true),
    (⟨0⟩, .pass 30)]

/-- If the word comes before the late tick, the run ends. If the tick comes first, the run is in another call of
    the sink; and one more word to go on overtakes the word to stop. -/
theorem shutdown_heeded_overtaken :
    let r := (new 10).run overtaken
    let stopped := r.run (choosing ⟨0⟩ [false, false, false, false])
    let calling := r.run (choosing ⟨0⟩ [false, true, false, true])
    0 < 10 ∧ lastWord overtaken = some true ∧ ((Listener.new 10 true).run overtaken).told = r ∧
      stopped.background = .ended ∧ stopped.parked ⟨0⟩ = true ∧
      calling.background = .calling 50 30 ∧ calling.parked ⟨0⟩ = true ∧
      (r.run ((⟨0⟩, .send false) :: choosing ⟨0⟩ [false, false, false, false])).background ≠ .ended := by
  intro r stopped calling
  obtain ⟨hchannel, -, -, hparked, -, hgoing⟩ := shutdown_heeded 10 overtaken
  have hopen : ¬ ∃ x ∈ overtaken, x.2 = .close := by simp [overtaken]
  exact ⟨by decide, by decide, hchannel true, by decide +kernel, (hparked (by decide) ⟨0⟩ _ (by decide)).1,
    by decide +kernel, (hparked (by decide) ⟨0⟩ _ (by decide)).1,
    hgoing (by decide +kernel) hopen ⟨0⟩ _ (by simp [choosing])⟩

end Refresher

end Kanban
