import Kanban.Proofs.Confirmation.Enquiry

/-!
# `Proofs.Confirmation.Punctual` — enquiries in which nobody looks too late

An executor that wakes the waiting end whenever there is something to hear is punctual. In a punctual
enquiry every wait ends at a moment that can be told beforehand.

## Contents
- `Dated`, `dated_run`: nothing lies ahead of the clock.
- `due`, `verdict_isSome_iff`: when a wait is to end.
- `Enquiry.act`, `Enquiry.punctually`: the punctual executor; `punctually_eq_run`: what it leads to can happen.
- `Unmissed`, `Timely`, `timely_act`, `timely_punctually`: its invariant.
-/

namespace Kanban.Enquiry

variable {q : Enquiry} {limit : Option Nat} {since moment : Nat} {c : Confirmation} {r : Reply}

/-! ## The clock -/

/-- Nothing lies ahead of the clock. -/
structure Dated (q : Enquiry) : Prop where
  began : ∀ limit since, q.waiter = .waiting limit since → since ≤ q.now
  moment : ∀ t, q.handle.moment = some t → t ≤ q.now

theorem dated_fresh : fresh.Dated := ⟨fun _ _ h => (by cases h), fun _ h => (by cases h)⟩

theorem dated_step (h : q.Dated) (e : Event) : (q.step e).Dated := by
  cases e with
  | replies r =>
    show (q.reply r).Dated
    cases hh : q.handle with
    | used r' told t =>
      rw [reply_of_used hh]
      exact h
    | held =>
      rw [reply_of_held hh]
      exact ⟨h.began, fun t ht => Nat.le_of_eq (Option.some.inj ht).symm⟩
  | begins limit =>
    show (q.beginWait limit).Dated
    by_cases hw : q.waiter = .ready
    · rw [beginWait_of_ready hw]
      refine ⟨fun limit' since hbegun => ?_, h.moment⟩
      cases hbegun
      exact Nat.le_refl _
    · rw [beginWait_of_begun hw]
      exact h
  | looks =>
    show q.look.Dated
    unfold look
    split
    · split
      · exact ⟨fun _ _ hnot => (by cases hnot), h.moment⟩
      · exact h
    · exact h
  | leaves =>
    show q.leave.Dated
    unfold leave
    split
    · exact h
    · exact ⟨fun _ _ hnot => (by cases hnot), h.moment⟩
  | passes ms =>
    exact ⟨fun limit since hw => Nat.le_add_right_of_le (h.began limit since hw),
      fun t ht => Nat.le_add_right_of_le (h.moment t ht)⟩

theorem dated_run (h : q.Dated) (es : List Event) : (q.run es).Dated := by
  induction es generalizing q with
  | nil => exact h
  | cons e rest ih => exact ih (dated_step h e)

/-- When a wait is to end: when something has come from the other end, or when the limit is reached,
    whichever is earlier. -/
def due (limit : Option Nat) (since : Nat) (h : Handle) : Option Nat :=
  match h.moment, limit with
  | some t, some l => some (min (max since t) (since + l))
  | some t, none => some (max since t)
  | none, some l => some (since + l)
  | none, none => none

theorem since_le_due {h : Handle} {t : Nat} (ht : due limit since h = some t) : since ≤ t := by
  unfold due at ht
  split at ht <;> cases ht <;> omega

/-- **A look finds something** exactly if the wait is due. -/
theorem verdict_isSome_iff (hs : q.Sound) (hd : q.Dated) (hw : q.waiter = .waiting limit since) :
    (q.gate.verdict limit (q.now - since)).isSome = true ↔
      ∃ t, due limit since q.handle = some t ∧ t ≤ q.now := by
  have hbegan := hd.began limit since hw
  have hreply := hs.reply (by rw [hw]; rfl)
  cases hh : q.handle with
  | held =>
    rw [hh] at hreply
    rw [Gate.verdict_of_none hreply]
    cases limit with
    | none => simp [Gate.verdict, Gate.fresh, due, Handle.moment]
    | some l =>
      have hle : l ≤ q.now - since ↔ since + l ≤ q.now := by omega
      by_cases hl : since + l ≤ q.now <;> simp [Gate.verdict, Gate.fresh, due, Handle.moment, hle, hl]
  | used r told t =>
    have ht := hd.moment t (by rw [hh]; rfl)
    have hlate : max since t ≤ q.now := Nat.max_le.mpr ⟨hbegan, ht⟩
    rw [hh] at hreply
    rw [Gate.verdict_of_reply hreply]
    cases limit with
    | none => simpa [due, Handle.moment] using hlate
    | some l =>
      have hmin : min (max since t) (since + l) ≤ q.now := Nat.le_trans (Nat.min_le_left _ _) hlate
      simpa [due, Handle.moment] using hmin

/-! ## A punctual executor -/

/-- When a limit is to wake whoever waits. -/
def alarm (q : Enquiry) : Option Nat :=
  match q.waiter with
  | .waiting (some l) since => some (since + l)
  | _ => none

/-- What happens in an event if whoever waits looks at the gate at once, and when the limit is reached. -/
def act (q : Enquiry) : Event → Enquiry
  | .passes ms =>
    match q.alarm with
    | some t => if t ≤ q.now + ms then ((q.pass (t - q.now)).look).pass (q.now + ms - t) else q.pass ms
    | none => q.pass ms
  | e => (q.step e).look

/-- An enquiry after several events under a punctual executor. -/
def punctually (q : Enquiry) (es : List Event) : Enquiry := es.foldl act q

/-- **A punctual enquiry** is one of the enquiries: both ends do the same in the same order, with looks at
    the right moments in between. -/
theorem act_eq_run (q : Enquiry) (e : Event) :
    ∃ es, q.act e = q.run es ∧ es.filter Event.ofEnds = [e].filter Event.ofEnds := by
  cases e with
  | passes ms =>
    unfold act
    dsimp only
    split
    · rename_i t _
      split
      · exact ⟨[.passes (t - q.now), .looks, .passes (q.now + ms - t)], rfl, rfl⟩
      · exact ⟨[.passes ms], rfl, rfl⟩
    · exact ⟨[.passes ms], rfl, rfl⟩
  | replies r => exact ⟨[.replies r, .looks], rfl, rfl⟩
  | begins limit => exact ⟨[.begins limit, .looks], rfl, rfl⟩
  | looks => exact ⟨[.looks, .looks], rfl, rfl⟩
  | leaves => exact ⟨[.leaves, .looks], rfl, rfl⟩

theorem punctually_eq_run (q : Enquiry) (es : List Event) :
    ∃ es', q.punctually es = q.run es' ∧ es'.filter Event.ofEnds = es.filter Event.ofEnds := by
  induction es generalizing q with
  | nil => exact ⟨[], rfl, rfl⟩
  | cons e rest ih =>
    obtain ⟨first, hfirst, hends⟩ := act_eq_run q e
    obtain ⟨later, hlater, hrest⟩ := ih (q.act e)
    refine ⟨first ++ later, ?_, ?_⟩
    · rw [run_append, ← hfirst]
      exact hlater
    · rw [List.filter_append, hends, hrest, ← List.filter_append]
      rfl

/-! ### Its invariant -/

/-- **Nothing has been missed:** a wait that goes on is not overdue, and one that is over ended when it was
    due. -/
structure Unmissed (q : Enquiry) : Prop where
  sound : q.Sound
  dated : q.Dated
  waits : ∀ limit since t, q.waiter = .waiting limit since → due limit since q.handle = some t → q.now ≤ t
  ended : ∀ limit since c t, q.waiter = .settled limit since c t →
    due limit since q.handle = some t ∧ t ≤ q.now

/-- Nothing has been missed, and nothing is due at this moment. -/
structure Timely (q : Enquiry) : Prop extends Unmissed q where
  ahead : ∀ limit since t, q.waiter = .waiting limit since → due limit since q.handle = some t → q.now < t

theorem timely_fresh : fresh.Timely where
  sound := sound_fresh
  dated := dated_fresh
  waits := fun _ _ _ h => (by cases h)
  ended := fun _ _ _ _ h => (by cases h)
  ahead := fun _ _ _ h => (by cases h)

/-- Where nobody waits nothing is due. -/
theorem Unmissed.timely (h : q.Unmissed) (hw : ∀ limit since, q.waiter ≠ .waiting limit since) : q.Timely :=
  { h with ahead := fun limit since _ hwaiting => absurd hwaiting (hw limit since) }

/-- **After a look** nothing is due any more. -/
theorem timely_look (h : q.Unmissed) : q.look.Timely := by
  cases hw : q.waiter with
  | ready | settled | gone =>
    have hidle : ∀ limit since, q.waiter ≠ .waiting limit since := by
      intro limit since heq
      rw [hw] at heq
      cases heq
    rw [look_of_idle hidle]
    exact h.timely hidle
  | waiting limit since =>
    have hdue := verdict_isSome_iff h.sound h.dated hw
    cases hv : q.gate.verdict limit (q.now - since) with
    | none =>
      rw [look_of_none hw hv]
      refine { h with ahead := fun limit' since' t hwaiting ht => ?_ }
      rw [hw] at hwaiting
      cases hwaiting
      apply Nat.lt_of_not_le
      intro hle
      have hsome := hdue.mpr ⟨t, ht, hle⟩
      rw [hv] at hsome
      cases hsome
    | some c =>
      -- The wait is due by now and was not overdue, so it ends at the very moment.
      obtain ⟨t, ht, hle⟩ := hdue.mp (by rw [hv]; rfl)
      have hnow : t = q.now := Nat.le_antisymm hle (h.waits limit since t hw ht)
      have hsound := sound_look h.sound
      have hdated := dated_step h.dated .looks
      change q.look.Dated at hdated
      rw [look_of_verdict hw hv] at hsound hdated ⊢
      refine Unmissed.timely ⟨hsound, hdated, fun _ _ _ hnot => (by cases hnot), ?_⟩
        fun _ _ hnot => (by cases hnot)
      intro limit' since' c' t' hover
      cases hover
      exact ⟨hnow ▸ ht, Nat.le_refl _⟩

/-- What comes from the other end makes a wait due at once, and changes nothing about one that is over. -/
theorem unmissed_reply (h : q.Timely) (r : Reply) : (q.reply r).Unmissed := by
  have hsound := sound_reply h.sound r
  have hdated := dated_step h.dated (.replies r)
  change (q.reply r).Dated at hdated
  cases hh : q.handle with
  | used r' told t =>
    rw [reply_of_used hh]
    exact h.toUnmissed
  | held =>
    rw [reply_of_held hh] at hsound hdated ⊢
    refine ⟨hsound, hdated, fun limit since t hw ht => ?_, fun limit since c t hw => ?_⟩
    · have hbegan := h.dated.began limit since hw
      cases limit with
      | none =>
        have hmoment : max since q.now = t := Option.some.inj ht
        show q.now ≤ t
        omega
      | some l =>
        have hmoment : min (max since q.now) (since + l) = t := Option.some.inj ht
        have hlimit : q.now < since + l :=
          h.ahead (some l) since (since + l) hw (by simp [due, hh, Handle.moment])
        show q.now ≤ t
        omega
    · -- Nothing came while it lasted, so it ended at its limit, which is past.
      obtain ⟨hdue, hle⟩ := h.ended limit since c t hw
      refine ⟨?_, hle⟩
      rw [hh] at hdue
      cases limit with
      | none => cases hdue
      | some l =>
        have hmoment : since + l = t := Option.some.inj hdue
        show some (min (max since q.now) (since + l)) = some t
        congr 1
        omega

theorem unmissed_begin (h : q.Timely) (limit : Option Nat) : (q.beginWait limit).Unmissed := by
  have hsound := sound_beginWait h.sound limit
  have hdated := dated_step h.dated (.begins limit)
  change (q.beginWait limit).Dated at hdated
  by_cases hw : q.waiter = .ready
  · rw [beginWait_of_ready hw] at hsound hdated ⊢
    refine ⟨hsound, hdated, fun limit' since t hwaiting ht => ?_, fun _ _ _ _ hnot => (by cases hnot)⟩
    cases hwaiting
    exact since_le_due ht
  · rw [beginWait_of_begun hw]
    exact h.toUnmissed

theorem unmissed_leave (h : q.Timely) : q.leave.Unmissed := by
  have hsound := sound_leave h.sound
  have hdated := dated_step h.dated .leaves
  change q.leave.Dated at hdated
  cases hd : q.waiter.done with
  | true =>
    rw [leave_of_done hd]
    exact h.toUnmissed
  | false =>
    rw [leave_of_there hd] at hsound hdated ⊢
    exact ⟨hsound, hdated, fun _ _ _ hnot => (by cases hnot), fun _ _ _ _ hnot => (by cases hnot)⟩

/-- Time may pass up to the moment at which a wait is due. -/
theorem unmissed_pass {ms : Nat} (h : q.Unmissed)
    (hms : ∀ limit since t, q.waiter = .waiting limit since → due limit since q.handle = some t →
      q.now + ms ≤ t) : (q.pass ms).Unmissed := by
  have hsound := sound_step h.sound (.passes ms)
  have hdated := dated_step h.dated (.passes ms)
  refine ⟨hsound, hdated, hms, fun limit since c t hw => ?_⟩
  obtain ⟨hdue, hle⟩ := h.ended limit since c t hw
  exact ⟨hdue, Nat.le_add_right_of_le hle⟩

/-- A wait that nothing is due for is due when its limit is reached, if it has one. -/
theorem Timely.due_eq_alarm (h : q.Timely) (hw : q.waiter = .waiting limit since) :
    due limit since q.handle = q.alarm := by
  have hbegan := h.dated.began limit since hw
  cases hh : q.handle with
  | held => cases limit <;> simp [due, Handle.moment, alarm, hw]
  | used r told t =>
    -- Whatever has come would be due by now.
    exfalso
    have ht := h.dated.moment t (by rw [hh]; rfl)
    cases limit with
    | none =>
      have hahead := h.ahead none since (max since t) hw (by simp [due, hh, Handle.moment])
      omega
    | some l =>
      have hahead := h.ahead (some l) since (min (max since t) (since + l)) hw
        (by simp [due, hh, Handle.moment])
      omega

theorem timely_passes (h : q.Timely) (ms : Nat) : (q.act (.passes ms)).Timely := by
  have hwaiting : ∀ limit since t, q.waiter = .waiting limit since →
      due limit since q.handle = some t → q.alarm = some t ∧ q.now < t := by
    intro limit since t hw ht
    exact ⟨(h.due_eq_alarm hw).symm.trans ht, h.ahead limit since t hw ht⟩
  unfold act
  dsimp only
  cases ha : q.alarm with
  | none =>
    rw [ha] at hwaiting
    have hnone : ∀ limit since t, q.waiter = .waiting limit since → due limit since q.handle = some t →
        False := by
      intro limit since t hw ht
      cases (hwaiting limit since t hw ht).1
    exact { unmissed_pass h.toUnmissed (fun limit since t hw ht => (hnone limit since t hw ht).elim) with
      ahead := fun limit since t hw ht => (hnone limit since t hw ht).elim }
  | some alarm =>
    rw [ha] at hwaiting
    dsimp only
    by_cases hle : alarm ≤ q.now + ms
    · rw [if_pos hle]
      -- The alarm rings on the way: whoever waits looks then, and is not there any more afterwards.
      have hring : (q.pass (alarm - q.now)).Unmissed := by
        refine unmissed_pass h.toUnmissed fun limit since t hw ht => ?_
        obtain ⟨heq, hlt⟩ := hwaiting limit since t hw ht
        cases heq
        omega
      have hlooked := timely_look hring
      have hover : ∀ limit since, (q.pass (alarm - q.now)).look.waiter ≠ .waiting limit since := by
        intro limit since hw
        have hsame := look_of_waiting hw
        rw [hsame] at hlooked hw
        have hdue := (h.due_eq_alarm hw).trans ha
        have hbefore := h.ahead limit since alarm hw hdue
        have hafter : q.now + (alarm - q.now) < alarm := hlooked.ahead limit since alarm hw hdue
        omega
      refine (unmissed_pass hlooked.toUnmissed fun limit since t hw => ?_).timely fun limit since hw => ?_
      · exact absurd hw (hover limit since)
      · exact hover limit since hw
    · rw [if_neg hle]
      have hbefore : ∀ limit since t, q.waiter = .waiting limit since →
          due limit since q.handle = some t → q.now + ms < t := by
        intro limit since t hw ht
        obtain ⟨heq, _⟩ := hwaiting limit since t hw ht
        cases heq
        omega
      have hpassed := unmissed_pass h.toUnmissed fun limit since t hw ht =>
        Nat.le_of_lt (hbefore limit since t hw ht)
      exact { hpassed with ahead := hbefore }

/-- **One event** under a punctual executor. -/
theorem timely_act (h : q.Timely) (e : Event) : (q.act e).Timely := by
  cases e with
  | replies r => exact timely_look (unmissed_reply h r)
  | begins limit => exact timely_look (unmissed_begin h limit)
  | looks => exact timely_look (timely_look h.toUnmissed).toUnmissed
  | leaves => exact timely_look (unmissed_leave h)
  | passes ms => exact timely_passes h ms

/-- **A whole punctual enquiry.** -/
theorem timely_punctually (h : q.Timely) (es : List Event) : (q.punctually es).Timely := by
  induction es generalizing q with
  | nil => exact h
  | cons e rest ih => exact ih (timely_act h e)

end Kanban.Enquiry
