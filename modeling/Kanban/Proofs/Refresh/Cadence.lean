import Kanban.Proofs.Refresh.Turns
import Mathlib.Order.Bounds.Basic

/-!
# `Proofs.Refresh.Cadence` — when a background run ticks

A tick of the background run is made when it is due, unless the call of the sink in the tick before is not
over by then: it is made at the end of that call instead. Which tick is due depends on the tick before alone,
so the times of all ticks follow from the start, the interval and the calls of the sink. Interactions in
progress take a call away, but no tick, and it makes no difference whether calls fail.

What carries this over a run is an equation between the time of the next tick, worked out from the ticks so
far, and what the background run is waiting for.

## Contents
- `Tick.over`, `Schedule.next`, `Schedule.upcoming`, `Schedule.Kept`: the times at which ticks are made.
- `Schedule.isLeast_dueAfter`, `Kept.next_le`, `Kept.windows`, `Kept.busy_throughout`: what follows for the
  multiples of the interval.
- `Refresher.Awaits`, `Refresher.Timed`: what the run waits for is the next tick; `timed_turn`, `timed_step`,
  `timed_run`.
- `Refresher.reach_tick`: the next tick is made; `Refresher.mended_run`: failures make no difference.
- `Refresher.ticks_on_time`: the ticks of a whole run.
-/

namespace Kanban

/-- When the background run goes on after a tick: once the call of the sink is over, if there is one. -/
def Tick.over (t : Tick) : Nat := t.time + t.call.getD 0

namespace Schedule

variable {s : Schedule} {t u : Tick} {l : List Tick}

/-! ## The times of ticks -/

/-- When the tick after a given one is made: when it is due, or as soon as the run goes on. -/
def next (s : Schedule) (t : Tick) : Nat := max (s.dueAfter t.time) t.over

/-- When a tick is made after those so far, the latest first. -/
def upcoming (s : Schedule) : List Tick → Nat
  | [] => s.start
  | t :: _ => s.next t

/-- Ticks, the latest first, each made at the time that the ones before it lead to. -/
def Kept (s : Schedule) : List Tick → Prop
  | [] => True
  | t :: earlier => t.time = s.upcoming earlier ∧ s.Kept earlier

/-! ## What is due -/

/-- **What is due after a moment** is the first multiple of the interval that is strictly after it. -/
theorem isLeast_dueAfter (s : Schedule) {m : Nat} (h : 0 < s.interval) (hs : s.start ≤ m) :
    IsLeast {due | m < due ∧ ∃ k, due = s.moment k} (s.dueAfter m) := by
  refine ⟨⟨s.lt_dueAfter m h, _, rfl⟩, ?_⟩
  rintro _ ⟨hlater, k, rfl⟩
  exact s.dueAfter_le m k hs hlater

/-- After a moment of a window, what is due is not before the end of the window. -/
theorem end_le_dueAfter (h : 0 < s.interval) {k m : Nat} (hm : s.moment k ≤ m) :
    s.moment (k + 1) ≤ s.dueAfter m := by
  have hk : k ≤ (m - s.start) / s.interval := by
    rw [Nat.le_div_iff_mul_le h]
    unfold moment at hm
    omega
  exact Nat.add_le_add_left (Nat.mul_le_mul_right _ (Nat.succ_le_succ hk)) _

/-! ## Ticks made in time -/

theorem start_le_upcoming (s : Schedule) (l : List Tick) : s.start ≤ s.upcoming l := by
  cases l with
  | nil => exact Nat.le_refl _
  | cons t _ => exact Nat.le_trans (Nat.le_add_right _ _) (Nat.le_max_left _ _)

theorem Kept.start_le (h : s.Kept l) (ht : t ∈ l) : s.start ≤ t.time := by
  induction l with
  | nil => cases ht
  | cons u earlier ih =>
    cases ht with
    | head => rw [h.1]; exact s.start_le_upcoming earlier
    | tail _ ht => exact ih h.2 ht

/-- The tick after any of the ticks so far is made in time for the upcoming one. -/
theorem Kept.next_le (h : s.Kept l) (ht : t ∈ l) : s.next t ≤ s.upcoming l := by
  induction l with
  | nil => cases ht
  | cons u earlier ih =>
    cases ht with
    | head => exact Nat.le_refl _
    | tail _ ht =>
      calc s.next t ≤ s.upcoming earlier := ih h.2 ht
        _ = u.time := h.1.symm
        _ ≤ u.over := Nat.le_add_right _ _
        _ ≤ s.upcoming (u :: earlier) := Nat.le_max_right _ _

theorem Kept.pairwise (h : s.Kept l) : l.Pairwise fun later earlier => s.next earlier ≤ later.time := by
  induction l with
  | nil => exact List.Pairwise.nil
  | cons u earlier ih =>
    refine List.Pairwise.cons (fun t ht => ?_) (ih h.2)
    rw [h.1]
    exact h.2.next_le ht

/-- **No window has two ticks.** -/
theorem Kept.windows (hp : 0 < s.interval) (h : s.Kept l) (k : Nat) :
    (l.filter fun t => s.moment k ≤ t.time ∧ t.time < s.moment (k + 1)).length ≤ 1 := by
  induction l with
  | nil => exact Nat.zero_le _
  | cons u earlier ih =>
    by_cases hu : s.moment k ≤ u.time ∧ u.time < s.moment (k + 1)
    · -- After a tick before it in the window, this one would not be before the end.
      have hnone : earlier.filter (fun t => s.moment k ≤ t.time ∧ t.time < s.moment (k + 1)) = [] := by
        simp only [List.filter_eq_nil_iff, decide_eq_true_eq]
        intro t ht hin
        have hnext : s.next t ≤ u.time := h.1 ▸ h.2.next_le ht
        have hend := end_le_dueAfter hp hin.1
        have hdue : s.dueAfter t.time ≤ s.next t := Nat.le_max_left _ _
        omega
      rw [List.filter_cons_of_pos (by simpa using hu), hnone]
      exact Nat.le_refl _
    · rw [List.filter_cons_of_neg (by simpa using hu)]
      exact ih h.2

/-- **A window without a tick** is one during which a call of the sink was going on all the time. -/
theorem Kept.busy_throughout (hp : 0 < s.interval) (h : s.Kept l) {k : Nat}
    (hk : s.moment (k + 1) ≤ s.upcoming l)
    (hnone : ∀ t ∈ l, ¬(s.moment k ≤ t.time ∧ t.time < s.moment (k + 1))) :
    ∃ t ∈ l, ∃ d, t.call = some d ∧ t.time < s.moment k ∧ s.moment (k + 1) ≤ t.time + d := by
  have hwindow : s.moment k < s.moment (k + 1) := by
    simp only [moment, Nat.add_mul]
    omega
  induction l with
  | nil =>
    have : s.start ≤ s.moment k := Nat.le_add_right _ _
    simp only [upcoming] at hk
    omega
  | cons t earlier ih =>
    by_cases hbefore : t.time < s.moment k
    · -- This is the latest tick before the window, and the one after it is not due after its beginning.
      have hstart : s.start ≤ t.time := h.start_le List.mem_cons_self
      have hdue := s.dueAfter_le t.time k hstart hbefore
      have hover : s.moment (k + 1) ≤ t.over := by
        simp only [upcoming, next] at hk
        omega
      cases hcall : t.call with
      | none =>
        rw [Tick.over, hcall] at hover
        exact absurd hover (by simp; omega)
      | some d =>
        rw [Tick.over, hcall] at hover
        exact ⟨t, List.mem_cons_self, d, hcall, hbefore, hover⟩
    · have hafter : s.moment (k + 1) ≤ t.time := by
        have := hnone t List.mem_cons_self
        omega
      rw [h.1] at hafter
      obtain ⟨u, hu, hbusy⟩ := ih h.2 hafter fun u hu => hnone u (List.mem_cons_of_mem _ hu)
      exact ⟨u, List.mem_cons_of_mem _ hu, hbusy⟩

end Schedule

namespace Refresher

variable {s : Schedule} {r r' : Refresher} {a : Activity} {e : Event}

/-! ## What a background run waits for -/

/-- The ticks of the background run, the latest first. -/
def ownTicks (r : Refresher) : List Tick := r.ticks.filter (·.background)

/-- After some ticks, what a background run waits for at a moment is the upcoming one, or first the end of a
    call. -/
def Awaits (s : Schedule) (own : List Tick) (now : Nat) : Background → Prop
  | .notStarted => False
  | .resting next => s.upcoming own = max next now
  | .calling finish next => now ≤ finish ∧ s.upcoming own = max next finish
  | .ended => True

/-- **A background run is on time** if its ticks so far were, and it waits for the one that comes next. -/
structure Timed (s : Schedule) (r : Refresher) : Prop where
  schedule : r.schedule = s
  kept : s.Kept r.ownTicks
  awaits : Awaits s r.ownTicks r.now r.background

/-- What becomes of a tick, with the count of what is in progress. -/
theorem tickNow_eq (r : Refresher) (a : Activity) (background : Bool) :
    r.tickNow a background = ⟨r.now, background, if a.count = 0 then some r.sink.delay else none⟩ := by
  unfold tickNow Activity.suppressed
  by_cases h : a.count = 0
  · simp [h]
  · simp [h, Nat.pos_of_ne_zero h]

theorem ownTicks_backgroundTick (r : Refresher) (a : Activity) :
    (r.backgroundTick a).ownTicks = r.tickNow a true :: r.ownTicks := rfl

/-- An event adds a tick of the background run in its turn, or none. -/
theorem step_ownTicks (r : Refresher) (a : Activity) (e : Event) :
    (r.step a e).ownTicks = r.ownTicks ∨
      (∃ tickFirst, e = .turn tickFirst) ∧ (r.step a e).ownTicks = r.tickNow a true :: r.ownTicks := by
  unfold ownTicks
  obtain h | ⟨-, h⟩ | ⟨he, h⟩ := r.step_ticks a e
  · exact Or.inl (by rw [h])
  · exact Or.inl (by rw [h]; rfl)
  · exact Or.inr ⟨he, by rw [h]; rfl⟩

/-- After a tick the run waits for what is due then, or first for the end of the call. -/
theorem awaits_afterTick (r : Refresher) (t : Tick) (own : List Tick) (ht : t.time = r.now) :
    Awaits r.schedule (t :: own) r.now (r.afterTick t) := by
  have hupcoming : r.schedule.upcoming (t :: own) =
      max (r.schedule.dueAfter r.now) (r.now + t.call.getD 0) := by rw [← ht]; rfl
  unfold afterTick
  cases hcall : t.call with
  | none => rw [hcall] at hupcoming; exact hupcoming
  | some delay =>
    rw [hcall] at hupcoming
    cases delay with
    | zero => exact hupcoming
    | succ n => exact ⟨Nat.le_add_right _ _, hupcoming⟩

/-! ## Runs on time -/

theorem timed_hear (h : r.Timed s) : r.hear.Timed s := by
  unfold hear
  split
  · exact ⟨h.schedule, h.kept, h.awaits⟩
  · exact ⟨h.schedule, h.kept, trivial⟩
  · exact ⟨h.schedule, h.kept, trivial⟩

/-- **A turn keeps a background run on time.** -/
theorem timed_turn {tickFirst : Bool} (h : r.Timed s) (ht : r.turn a tickFirst = some r') : r'.Timed s := by
  have hawaits := h.awaits
  obtain ⟨finish, next, hb, hover, rfl⟩ | ⟨next, hb, hdue, -, rfl⟩ | ⟨next, -, -, -, rfl⟩ := turn_cases ht
  · -- Time did not go on beyond the end of the call.
    rw [hb] at hawaits
    have hnow : finish = r.now := Nat.le_antisymm hover hawaits.1
    exact ⟨h.schedule, h.kept, hnow ▸ hawaits.2⟩
  · -- The tick is made at the very moment it is waited for.
    rw [hb] at hawaits
    have hnow : r.now = s.upcoming r.ownTicks := (Nat.max_eq_right hdue).symm.trans hawaits.symm
    exact ⟨h.schedule, ⟨hnow, h.kept⟩, h.schedule ▸ awaits_afterTick r _ _ rfl⟩
  · exact timed_hear h

/-- No time passes beyond the next thing that a background run does. -/
theorem timed_passUntil (h : r.Timed s) (moment : Nat) : (r.passUntil moment).Timed s := by
  refine ⟨h.schedule, h.kept, ?_⟩
  have hawaits := h.awaits
  show Awaits s r.ownTicks (r.passUntil moment).now r.background
  unfold passUntil wake
  cases hb : r.background with
  | notStarted => rw [hb] at hawaits; exact hawaits
  | ended => trivial
  | resting next =>
    rw [hb] at hawaits
    simp only [Awaits] at hawaits ⊢
    omega
  | calling finish next =>
    rw [hb] at hawaits
    simp only [Awaits] at hawaits ⊢
    omega

theorem timed_start (h : r.Timed s) : r.start.Timed s := by
  have hawaits := h.awaits
  unfold Refresher.start
  split
  · next hb => rw [hb] at hawaits; exact hawaits.elim
  · exact h

/-- **An event keeps a background run on time.** -/
theorem timed_step (h : r.Timed s) (a : Activity) (e : Event) : (r.step a e).Timed s := by
  cases e with
  | turn tickFirst =>
    cases ht : r.turn a tickFirst with
    | none => rw [step_of_no_turn ht]; exact h
    | some r' => rw [step_of_turn ht]; exact timed_turn h ht
  | pass ms =>
    unfold step
    dsimp only
    split
    · exact timed_passUntil h _
    · exact h
  | start => exact timed_start h
  | send value =>
    unfold step send
    dsimp only
    split <;> exact ⟨h.schedule, h.kept, h.awaits⟩
  | tick => exact ⟨h.schedule, h.kept, h.awaits⟩
  | close => exact ⟨h.schedule, h.kept, h.awaits⟩
  | setFailing on => exact ⟨h.schedule, h.kept, h.awaits⟩
  | setDelay ms => exact ⟨h.schedule, h.kept, h.awaits⟩

theorem timed_run (h : r.Timed s) (es : List (Activity × Event)) : (r.run es).Timed s := by
  induction es generalizing r with
  | nil => exact h
  | cons x rest ih => exact ih (timed_step h x.1 x.2)

/-- While the run goes on it is not past the upcoming tick; and once it has nothing to do, it is before it. -/
theorem Timed.now_le (h : r.Timed s) (hgoing : r.background ≠ .ended) :
    r.now ≤ s.upcoming r.ownTicks ∧ (r.parked a = true → r.now < s.upcoming r.ownTicks) := by
  have hawaits := h.awaits
  cases hb : r.background with
  | notStarted => rw [hb] at hawaits; exact hawaits.elim
  | ended => exact absurd hb hgoing
  | resting next =>
    rw [hb] at hawaits
    have hupcoming : s.upcoming r.ownTicks = max next r.now := hawaits
    refine ⟨by omega, fun hp => ?_⟩
    have hlater : r.now < next := lt_wake_of_parked hp (by rw [wake, hb])
    omega
  | calling finish next =>
    rw [hb] at hawaits
    obtain ⟨hnow, hupcoming⟩ := hawaits
    refine ⟨by omega, fun hp => ?_⟩
    have hlater : r.now < finish := lt_wake_of_parked hp (by rw [wake, hb])
    omega

/-! ## The next tick is made -/

/-- An event in which the background run does something by itself or time passes. -/
def Event.own : Event → Bool
  | .turn _ | .pass _ => true
  | _ => false

/-- With nothing to hear, time can pass until the background run goes on. -/
theorem step_pass_wake {w : Nat} (a : Activity) (hw : r.wake = some w) (hquiet : r.shutdown.audible = false) :
    r.step a (.pass (w - r.now)) = { r with now := max w r.now } := by
  have hpassed : r.passUntil (r.now + (w - r.now)) = { r with now := max w r.now } := by
    have hnow : max r.now (min (r.now + (w - r.now)) w) = max w r.now := by omega
    unfold passUntil
    rw [hw]
    exact congrArg (fun now => { r with now := now }) hnow
  show (if r.parked a then r.passUntil (r.now + (w - r.now)) else r) = _
  by_cases hlater : r.now < w
  · rw [if_pos (parked_of_lt_wake hw hlater hquiet), hpassed]
  · have hnow : max w r.now = r.now := by omega
    split
    · exact hpassed
    · rw [hnow]

/-- A run that rests and has nothing to hear makes its next tick once time has passed. -/
theorem reach_tick_of_resting {next : Nat} (a : Activity) (hb : r.background = .resting next)
    (hquiet : r.shutdown.audible = false) :
    (r.run [(a, .pass (next - r.now)), (a, .turn true)]).ownTicks =
      ⟨max next r.now, true, if a.count = 0 then some r.sink.delay else none⟩ :: r.ownTicks := by
  show ((r.step a (.pass (next - r.now))).step a (.turn true)).ownTicks = _
  have hw : r.wake = some next := by rw [wake, hb]
  rw [step_pass_wake a hw hquiet]
  let q : Refresher := { r with now := max next r.now }
  have hturn : q.turn a true = some (q.backgroundTick a) := by simp [turn, q, hb]
  show (q.step a (.turn true)).ownTicks = _
  rw [step_of_turn hturn, ownTicks_backgroundTick, tickNow_eq]
  rfl

/-- **The next tick is made.** A background run that goes on and has nothing to hear makes it at its time, if
    no more happens than that time passes and the run has its turns. -/
theorem reach_tick (h : r.Timed s) (a : Activity) (hgoing : r.background ≠ .ended)
    (hquiet : r.shutdown.audible = false) :
    ∃ es : List Event, (∀ e ∈ es, e.own = true) ∧ (r.run (es.map (a, ·))).ownTicks =
      ⟨s.upcoming r.ownTicks, true, if a.count = 0 then some r.sink.delay else none⟩ :: r.ownTicks := by
  have hawaits := h.awaits
  cases hb : r.background with
  | notStarted => rw [hb] at hawaits; exact hawaits.elim
  | ended => exact absurd hb hgoing
  | resting next =>
    rw [hb] at hawaits
    refine ⟨[.pass (next - r.now), .turn true], by simp [Event.own], ?_⟩
    rw [show s.upcoming r.ownTicks = max next r.now from hawaits]
    exact reach_tick_of_resting a hb hquiet
  | calling finish next =>
    rw [hb] at hawaits
    refine ⟨[.pass (finish - r.now), .turn true, .pass (next - finish), .turn true], by simp [Event.own], ?_⟩
    have hw : r.wake = some finish := by rw [wake, hb]
    have hpass := step_pass_wake a hw hquiet
    rw [Nat.max_eq_left hawaits.1] at hpass
    -- When the call is over the run rests, and goes on from there.
    let q : Refresher := { r with now := finish, background := .resting next }
    have hturn : (r.step a (.pass (finish - r.now))).step a (.turn true) = q := by
      rw [hpass]
      exact step_of_turn (by simp [turn, hb, q])
    show (((r.step a (.pass (finish - r.now))).step a (.turn true)).run
      [(a, .pass (next - finish)), (a, .turn true)]).ownTicks = _
    rw [hturn, show s.upcoming r.ownTicks = max next finish from hawaits.2]
    exact reach_tick_of_resting (r := q) a rfl hquiet

/-! ## Calls that fail -/

/-- Whether an event lets the sink fail, or work again. -/
def Event.setsFailing : Event → Bool
  | .setFailing _ => true
  | _ => false

/-- A refresher with a sink that works. -/
def mended (r : Refresher) : Refresher := { r with sink := { r.sink with failing := false } }

theorem mended_hear (r : Refresher) : r.mended.hear = r.hear.mended := by
  obtain ⟨_, _, _, ⟨unheard, _⟩, _, _⟩ := r
  rcases unheard with _ | _ | _ <;> rfl

theorem mended_turn (r : Refresher) (a : Activity) (tickFirst : Bool) :
    r.mended.turn a tickFirst = (r.turn a tickFirst).map mended := by
  cases hb : r.background with
  | notStarted =>
    have hm : r.mended.background = .notStarted := hb
    rw [turn_eq_none_iff.mpr (Or.inl hb), turn_eq_none_iff.mpr (Or.inl hm), Option.map_none]
  | ended =>
    have hm : r.mended.background = .ended := hb
    rw [turn_eq_none_iff.mpr (Or.inr (Or.inl hb)), turn_eq_none_iff.mpr (Or.inr (Or.inl hm)), Option.map_none]
  | calling finish next =>
    have hm : r.mended.background = .calling finish next := hb
    rw [turn_of_calling hb, turn_of_calling hm, apply_ite (Option.map mended)]
    rfl
  | resting next =>
    have hm : r.mended.background = .resting next := hb
    rw [turn_of_resting hb, turn_of_resting hm, apply_ite (Option.map mended), apply_ite (Option.map mended),
      mended_hear]
    rfl

theorem mended_start (r : Refresher) : r.mended.start = r.start.mended := by
  obtain ⟨_, _, background, _, _, _⟩ := r
  cases background <;> rfl

/-- **Whether calls fail** makes no difference to anything else. -/
theorem mended_step (r : Refresher) (a : Activity) (e : Event) :
    (r.step a e).mended = if e.setsFailing then r.mended else r.mended.step a e := by
  cases e with
  | turn tickFirst =>
    show ((r.turn a tickFirst).getD r).mended = (r.mended.turn a tickFirst).getD r.mended
    rw [mended_turn, Option.getD_map]
  | pass ms =>
    show (if r.parked a then _ else r).mended = if r.mended.parked a then _ else _
    rw [parked, parked, mended_turn, Option.isNone_map, apply_ite mended]
    rfl
  | start => exact (mended_start r).symm
  | send value =>
    show (if r.listening then _ else r).mended = if r.listening then _ else _
    rw [apply_ite mended]
    rfl
  | tick => rfl
  | close => rfl
  | setFailing on => rfl
  | setDelay ms => rfl

theorem mended_run (r : Refresher) (es : List (Activity × Event)) :
    (r.run es).mended = r.mended.run (es.filter fun x => !x.2.setsFailing) := by
  induction es generalizing r with
  | nil => rfl
  | cons x rest ih =>
    show ((r.step x.1 x.2).run rest).mended = _
    rw [ih, mended_step]
    cases hx : x.2.setsFailing with
    | true => rw [if_pos rfl, List.filter_cons_of_neg (by simp [hx])]
    | false =>
      rw [if_neg (by simp), List.filter_cons_of_pos (by simp [hx])]
      rfl

/-! ## Whole runs -/

/-- A background run that is not started makes no ticks. -/
theorem unstarted_step (hb : r.background = .notStarted) (a : Activity) (he : e ≠ .start) :
    (r.step a e).background = .notStarted ∧ (r.step a e).schedule = r.schedule ∧
      (r.step a e).ownTicks = r.ownTicks := by
  cases e with
  | start => exact absurd rfl he
  | turn tickFirst =>
    rw [step_of_no_turn (turn_eq_none_iff.mpr (Or.inl hb))]
    exact ⟨hb, rfl, rfl⟩
  | pass ms =>
    unfold step
    dsimp only
    split <;> exact ⟨hb, rfl, rfl⟩
  | send value =>
    unfold step send
    dsimp only
    split <;> exact ⟨hb, rfl, rfl⟩
  | tick => exact ⟨hb, rfl, rfl⟩
  | close => exact ⟨hb, rfl, rfl⟩
  | setFailing on => exact ⟨hb, rfl, rfl⟩
  | setDelay ms => exact ⟨hb, rfl, rfl⟩

theorem unstarted_run (hb : r.background = .notStarted) {es : List (Activity × Event)}
    (hes : ∀ x ∈ es, x.2 ≠ .start) :
    (r.run es).background = .notStarted ∧ (r.run es).schedule = r.schedule ∧
      (r.run es).ownTicks = r.ownTicks := by
  induction es generalizing r with
  | nil => exact ⟨hb, rfl, rfl⟩
  | cons x rest ih =>
    obtain ⟨hb', hschedule, hown⟩ := unstarted_step hb x.1 (hes x List.mem_cons_self)
    obtain ⟨hb'', hschedule', hown'⟩ := ih hb' fun y hy => hes y (List.mem_cons_of_mem _ hy)
    exact ⟨hb'', hschedule'.trans hschedule, hown'.trans hown⟩

/-- A background run is on time from its start on. -/
theorem timed_of_start (hb : r.background = .notStarted) (hown : r.ownTicks = []) (a : Activity) :
    (r.step a .start).Timed ⟨r.now, r.schedule.interval⟩ := by
  have hstart : r.step a .start =
      { r with background := .resting r.now, schedule := { r.schedule with start := r.now } } := by
    show r.start = _
    unfold Refresher.start
    rw [hb]
  rw [hstart]
  have hnone : Refresher.ownTicks
      { r with background := .resting r.now, schedule := { r.schedule with start := r.now } } = [] := hown
  refine ⟨rfl, ?_, ?_⟩
  · rw [hnone]
    trivial
  · rw [hnone]
    exact (Nat.max_self r.now).symm

theorem run_append (r : Refresher) (es es' : List (Activity × Event)) :
    r.run (es ++ es') = (r.run es).run es' := List.foldl_append

/-- **The ticks of a background run,** whatever happens to it and however many interactions are in progress
    at each moment. It is started once, and the multiples of the interval are counted from there.
    - Every tick is made at the time that `Schedule.upcoming` gives for it: the first one at the start, every
      other one when it is due, or when the call in the tick before is over. Due is the first multiple that
      is strictly after the tick before.
    - No tick is left out. Until the run ends it is never past its next tick, once it has nothing to do it is
      before it, and with nothing to hear it gets there.
    - It is in its own turns that ticks are made, each with a call of the sink exactly if nothing is in
      progress. A turn ends the run only if that is what it hears, so no failure and no tick without a call
      ever does.
    - A call of the sink is over before the next tick, no window between two multiples has two ticks, and in
      a window without one a call was going on all the time.
    - If the sink never fails, nothing but that is different. -/
theorem ticks_on_time (p : Nat) (hp : 0 < p) (before after : List (Activity × Event)) (begun : Activity)
    (hbefore : ∀ x ∈ before, x.2 ≠ .start) :
    let events := before ++ (begun, .start) :: after
    let s : Schedule := ⟨((new p).run before).now, p⟩
    let r := (new p).run events
    let own := r.ownTicks
    (s.Kept own ∧
      ∀ t ∈ own, IsLeast {due | t.time < due ∧ ∃ k, due = s.moment k} (s.dueAfter t.time)) ∧
    (r.background ≠ .ended → ∀ a,
      r.now ≤ s.upcoming own ∧
      (r.parked a = true → r.now < s.upcoming own) ∧
      (r.shutdown.audible = false → ∃ es : List Event, (∀ e ∈ es, e.own = true) ∧
        (r.run (es.map (a, ·))).ownTicks =
          ⟨s.upcoming own, true, if a.count = 0 then some r.sink.delay else none⟩ :: own)) ∧
    (∀ a e,
      ((r.step a e).ownTicks = own ∨ (∃ tickFirst, e = .turn tickFirst) ∧
        (r.step a e).ownTicks =
          ⟨r.now, true, if a.count = 0 then some r.sink.delay else none⟩ :: own) ∧
      ((r.step a e).background = .ended → r.background = .ended ∨ (∃ tickFirst, e = .turn tickFirst) ∧
        (r.shutdown.unheard = some true ∨ r.shutdown.unheard = none ∧ r.shutdown.closed = true))) ∧
    own.Pairwise (fun later earlier => earlier.over ≤ later.time) ∧
    (∀ k, (own.filter fun t => s.moment k ≤ t.time ∧ t.time < s.moment (k + 1)).length ≤ 1) ∧
    (∀ k, r.background ≠ .ended → s.moment (k + 1) ≤ r.now →
      (∀ t ∈ own, ¬(s.moment k ≤ t.time ∧ t.time < s.moment (k + 1))) →
      ∃ t ∈ own, ∃ d, t.call = some d ∧ t.time < s.moment k ∧ s.moment (k + 1) ≤ t.time + d) ∧
    (new p).run (events.filter fun x => !x.2.setsFailing) =
      { r with sink := { r.sink with failing := false } } := by
  intro events s r own
  have h : r.Timed s := by
    obtain ⟨hb, hschedule, hown⟩ := unstarted_run (r := new p) rfl hbefore
    have hstart := timed_of_start hb hown begun
    rw [hschedule] at hstart
    show ((new p).run (before ++ (begun, .start) :: after)).Timed s
    rw [run_append]
    exact timed_run hstart after
  refine ⟨⟨h.kept, fun t ht => s.isLeast_dueAfter hp (h.kept.start_le ht)⟩,
    fun hgoing a => ⟨(h.now_le (a := a) hgoing).1, (h.now_le hgoing).2, reach_tick h a hgoing⟩,
    fun a e => ⟨?_, step_ends⟩, ?_, h.kept.windows hp, fun k hgoing hk hnone => ?_, ?_⟩
  · rw [← tickNow_eq]
    exact r.step_ownTicks a e
  · exact h.kept.pairwise.imp fun hnext => Nat.le_trans (Nat.le_max_right _ _) hnext
  · exact h.kept.busy_throughout hp (Nat.le_trans hk (h.now_le (a := begun) hgoing).1) hnone
  · exact (mended_run (new p) events).symm

/-- A start at 3 and ticks every 10. The first call takes until 28, past two ticks that were due, and the tick
    that is made then finds somebody busy; the call in the third one fails, and it is late again. -/
def slowCalls : List (Activity × Event) :=
  [(⟨0⟩, .setDelay 25), (⟨0⟩, .turn true), (⟨0⟩, .pass 30), (⟨1⟩, .turn true), (⟨1⟩, .turn true),
    (⟨0⟩, .setFailing true), (⟨0⟩, .pass 30), (⟨0⟩, .turn true), (⟨0⟩, .pass 30)]

theorem ticks_on_time_slowCalls :
    let r := (new 10).run ([(⟨0⟩, .pass 3)] ++ (⟨0⟩, .start) :: slowCalls)
    let s : Schedule := ⟨3, 10⟩
    0 < 10 ∧ (∀ x ∈ [((⟨0⟩ : Activity), Event.pass 3)], x.2 ≠ .start) ∧ r.background ≠ .ended ∧
      r.ownTicks = [⟨33, true, some 25⟩, ⟨28, true, none⟩, ⟨3, true, some 25⟩] ∧ s.upcoming r.ownTicks = 58 ∧
      s.Kept r.ownTicks ∧ IsLeast {due | 28 < due ∧ ∃ k, due = s.moment k} 33 ∧
      (∃ es : List Event, (∀ e ∈ es, e.own = true) ∧
        (r.run (es.map ((⟨0⟩ : Activity), ·))).ownTicks = ⟨58, true, some 25⟩ :: r.ownTicks) ∧
      ∃ t ∈ r.ownTicks, ∃ d, t.call = some d ∧ t.time < s.moment 1 ∧ s.moment 2 ≤ t.time + d := by
  intro r s
  have hbefore : ∀ x ∈ [((⟨0⟩ : Activity), Event.pass 3)], x.2 ≠ .start := by decide
  obtain ⟨⟨hkept, hdue⟩, hgoing, -, -, -, hbusy, -⟩ :=
    ticks_on_time 10 (by decide) [(⟨0⟩, .pass 3)] slowCalls ⟨0⟩ hbefore
  have hown : r.ownTicks = [⟨33, true, some 25⟩, ⟨28, true, none⟩, ⟨3, true, some 25⟩] := by decide +kernel
  have hon : r.background ≠ .ended := by decide +kernel
  have hquiet : r.shutdown.audible = false := by decide +kernel
  exact ⟨by decide, hbefore, hon, hown, by rw [hown]; decide, hkept,
    hdue ⟨28, true, none⟩ (by show _ ∈ r.ownTicks; rw [hown]; decide), (hgoing hon ⟨0⟩).2.2 hquiet,
    hbusy 1 hon (by decide +kernel) (by show ∀ t ∈ r.ownTicks, _; rw [hown]; decide)⟩

end Refresher
end Kanban
