import Kanban.Proofs.Confirmation.Punctual

/-!
# `Proofs.Confirmation.Agreement` — both ends of a confirmation agree

What the one end has been told and what the other one has obtained are the same, whatever the two do and in
whatever order. Under a punctual executor the moment at which a wait ends is known as well.

## Contents
- `settled_run`: what a wait that is over has heard.
- `Sound.obtained`, `Sound.too_late`: answers that count, and answers that do not.
- `both_ends_agree`: every enquiry.
-/

namespace Kanban.Enquiry

variable {q : Enquiry} {limit : Option Nat} {since moment : Nat} {c : Confirmation} {r : Reply}

/-! ## Every enquiry -/

/-- A wait that is over has heard what came before it ended, and nothing if it ran into its limit. -/
theorem settled_run {es : List Event} (h : (fresh.run es).waiter = .settled limit since c moment) :
    ∃ before after, es = before ++ .looks :: after ∧
      let u := fresh.run before
      u.waiter = .waiting limit since ∧ u.now = moment ∧
      (∀ b, c = (Reply.answered b).confirmation → ∃ t, u.handle = .used (.answered b) (some true) t) ∧
      (c = .abandoned → ∃ told t, u.handle = .used .dropped told t) ∧
      (c = .timedOut → u.handle = .held ∧ ∃ l, limit = some l ∧ since + l ≤ moment) := by
  obtain ⟨before, after, hes, hwaiting, hnow, hv⟩ := look_of_settled rfl h
  have hbegan := (dated_run dated_fresh before).began limit since hwaiting
  refine ⟨before, after, hes, hwaiting, hnow, ?_⟩
  rcases (sound_run sound_fresh before).verdict_eq_some (by rw [hwaiting]; rfl) hv with
    ⟨r, told, t, hused, rfl, hcounts⟩ | ⟨hheld, rfl, l, hl, hle⟩
  · refine ⟨fun b hb => ?_, fun hb => ?_, fun hb => ?_⟩
    · have hr : r = .answered b := Reply.confirmation_injective hb
      exact ⟨t, hr ▸ hcounts b hr ▸ hused⟩
    · have hr : r = .dropped := Reply.confirmation_injective hb
      exact ⟨told, t, hr ▸ hused⟩
    · exact absurd hb (Reply.confirmation_ne_timedOut r)
  · refine ⟨fun b hb => ?_, fun hb => ?_, fun _ => ⟨hheld, l, hl, ?_⟩⟩
    · exact absurd hb.symm (Reply.confirmation_ne_timedOut (.answered b))
    · cases hb
    · omega

/-- A look at a gate that has a reply ends the wait with it. -/
theorem look_of_reply (h : q.waiter = .waiting limit since) (hr : q.gate.reply = some r) :
    q.look.waiter.outcome = some r.confirmation := by
  rw [look_of_verdict h (Gate.verdict_of_reply hr limit _)]
  rfl

/-- An answer that counts is what the wait obtains. -/
theorem Sound.obtained {b : Bool} {t : Nat} (h : q.Sound)
    (hb : q.handle = .used (.answered b) (some true) t) :
    match q.waiter with
    | .ready => ∀ limit,
        ((q.step (.begins limit)).step .looks).waiter.outcome = some (Reply.answered b).confirmation
    | .waiting _ _ => (q.step .looks).waiter.outcome = some (Reply.answered b).confirmation
    | .settled _ _ c _ => c = (Reply.answered b).confirmation
    | .gone => True := by
  have hreply : q.gate.reply = some (.answered b) := by
    rcases h.told b (some true) t hb with ⟨_, hreply⟩ | ⟨hfalse, _⟩
    · exact hreply
    · cases hfalse
  cases hw : q.waiter with
  | ready =>
    intro limit
    show (q.beginWait limit).look.waiter.outcome = _
    rw [beginWait_of_ready hw]
    exact look_of_reply rfl hreply
  | waiting limit since => exact look_of_reply hw hreply
  | settled limit since c moment => exact h.heard _ c hreply (by rw [hw]; rfl)
  | gone => trivial

/-- Once the waiting end is no longer there, an answer is told so. -/
theorem Sound.too_late (h : q.Sound) (hd : q.waiter.done = true) (hh : q.handle = .held) (b : Bool) :
    (q.step (.replies (.answered b))).handle = .used (.answered b) (some false) q.now := by
  have hlistening : q.gate.listening = false := by rw [h.listening, hd]; rfl
  have htold : ((Reply.answered b).answer.give q.gate).2 = some false := by
    rw [(give_answer q.gate (.answered b)).2 b rfl, hlistening, Bool.false_and]
  show (q.reply (.answered b)).handle = _
  rw [reply_of_held hh, htold]

/-- **Both ends of a confirmation agree,** whatever they do and whenever, and whatever the limit is.
    - A wait that is over has ended in a look. It has obtained what an answer said that was told before that
      it counts, or that the handle was dropped before, or else that the limit was reached while the handle
      was still held.
    - An answer that was told that it counts is what the wait obtains, if it is over. If it goes on it obtains
      it in the next look, and if it has not begun it does so in the first look, unless the waiting end goes
      away before.
    - The waiting end is gone without an outcome only if it went of its own accord.
    - Once the wait is over or the waiting end has gone away, every answer is told that it does not count.
    - Under a punctual executor, where both ends do the same in the same order, a wait is over as soon as
      something has come from the other end or the limit is reached, at the earlier moment of the two, and it
      goes on for ever if neither is the case. -/
theorem both_ends_agree :
    (∀ es : List Event,
      let q := fresh.run es
      (∀ limit since c moment, q.waiter = .settled limit since c moment →
        ∃ before after, es = before ++ .looks :: after ∧
          let u := fresh.run before
          u.waiter = .waiting limit since ∧ u.now = moment ∧
          (∀ b, c = (Reply.answered b).confirmation → ∃ t, u.handle = .used (.answered b) (some true) t) ∧
          (c = .abandoned → ∃ told t, u.handle = .used .dropped told t) ∧
          (c = .timedOut → u.handle = .held ∧ ∃ l, limit = some l ∧ since + l ≤ moment)) ∧
      (∀ b t, q.handle = .used (.answered b) (some true) t →
        match q.waiter with
        | .ready => ∀ limit,
            ((q.step (.begins limit)).step .looks).waiter.outcome = some (Reply.answered b).confirmation
        | .waiting _ _ => (q.step .looks).waiter.outcome = some (Reply.answered b).confirmation
        | .settled _ _ c _ => c = (Reply.answered b).confirmation
        | .gone => True) ∧
      (q.waiter = .gone → .leaves ∈ es) ∧
      (q.waiter.done = true → ∀ later b,
        (q.run later).waiter = q.waiter ∧ ((q.run later).handle = .held →
          ((q.run later).step (.replies (.answered b))).handle =
            .used (.answered b) (some false) (q.run later).now))) ∧
    ∀ es : List Event,
      let q := fresh.punctually es
      (∃ es', q = fresh.run es' ∧ es'.filter Event.ofEnds = es.filter Event.ofEnds) ∧
      (∀ limit since, q.waiter = .waiting limit since →
        ∀ t, due limit since q.handle = some t → q.now < t) ∧
      ∀ limit since c moment, q.waiter = .settled limit since c moment →
        due limit since q.handle = some moment := by
  refine ⟨?_, ?_⟩
  · intro es q
    have hsound : q.Sound := sound_run sound_fresh es
    refine ⟨?_, ?_, ?_, ?_⟩
    · intro limit since c moment hover
      exact settled_run hover
    · intro b t hb
      exact hsound.obtained hb
    · intro hgone
      exact gone_run rfl hgone
    · intro hdone later b
      have hwaiter : (q.run later).waiter = q.waiter := run_of_done hdone later
      refine ⟨hwaiter, fun hheld => ?_⟩
      exact (sound_run hsound later).too_late (hwaiter ▸ hdone) hheld b
  · intro es q
    have htimely : q.Timely := timely_punctually timely_fresh es
    refine ⟨punctually_eq_run fresh es, ?_, ?_⟩
    · intro limit since hwaiting t ht
      exact htimely.ahead limit since t hwaiting ht
    · intro limit since c moment hover
      exact (htimely.ended limit since c moment hover).1

/-- A wait that looks ten milliseconds past its limit hears an answer that has come meanwhile. If none has it
    is over, and the answer is told that it comes too late. -/
theorem both_ends_agree_pastLimit :
    let answered := [.begins (some 20), .passes 30, .replies (.answered true), .looks]
    let silent := [.begins (some 20), .passes 30, .looks]
    (fresh.run answered).waiter = .settled (some 20) 0 .accepted 30 ∧
      (∃ before after, answered = before ++ .looks :: after ∧
        ∃ t, (fresh.run before).handle = .used (.answered true) (some true) t) ∧
      (fresh.run silent).waiter.done = true ∧ (fresh.run silent).handle = .held ∧
      ((fresh.run silent).step (.replies (.answered true))).handle =
        .used (.answered true) (some false) (fresh.run silent).now ∧
      (fresh.punctually silent).waiter = .settled (some 20) 0 .timedOut 20 ∧
      due (some 20) 0 (fresh.punctually silent).handle = some 20 := by
  intro answered silent
  have hover : (fresh.run answered).waiter = .settled (some 20) 0 .accepted 30 := by decide
  have hdone : (fresh.run silent).waiter.done = true := by decide
  have hheld : (fresh.run silent).handle = .held := by decide
  have hpunctual : (fresh.punctually silent).waiter = .settled (some 20) 0 .timedOut 20 := by decide
  obtain ⟨before, after, hes, _, _, hanswered, _⟩ := (both_ends_agree.1 answered).1 _ _ _ _ hover
  have hlate := ((both_ends_agree.1 silent).2.2.2 hdone [] true).2 hheld
  have hdue := (both_ends_agree.2 silent).2.2 _ _ _ _ hpunctual
  exact ⟨hover, ⟨before, after, hes, hanswered true rfl⟩, hdone, hheld, hlate, hpunctual, hdue⟩

end Kanban.Enquiry
