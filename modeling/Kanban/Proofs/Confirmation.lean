import Kanban.Confirmation

/-!
# `Proofs.Confirmation` — how a wait ends

## Contents
- `Reply.confirmation_injective`: which outcomes are replies.
- `Gate.verdict_of_reply`, `Gate.lt_of_verdict`: what a verdict, or none, says about a gate.
- `Gate.reply_record`, `record_of_reply`, `record_of_closed`: which replies are heard.
- `Exchange.waitOut_of_verdict`, `waitOut_of_limit`, `waitOut_unlimited`: the three ways of a wait.
- `Exchange.waitOut_later`: waiting in parts.
- `Exchange.run_replied`, `run_replied_during`, `run_late`, `run_kept`: what the whole exchange comes to.
-/

namespace Kanban

/-! ## What a reply stands for -/

namespace Reply

/-- No two replies stand for the same outcome. -/
theorem confirmation_injective {r r' : Reply} (h : r.confirmation = r'.confirmation) : r = r' := by
  cases r with
  | answered accepted =>
    cases r' with
    | answered accepted' => cases accepted <;> cases accepted' <;> first | rfl | cases h
    | dropped => cases accepted <;> cases h
  | dropped =>
    cases r' with
    | answered accepted' => cases accepted' <;> cases h
    | dropped => rfl

/-- That the limit is reached is no reply. -/
theorem confirmation_ne_timedOut (r : Reply) : r.confirmation ≠ .timedOut := by
  cases r with
  | answered accepted => cases accepted <;> exact nofun
  | dropped => exact nofun

end Reply

/-! ## Verdicts -/

namespace Gate

/-- Without a verdict nobody has answered. -/
theorem reply_of_verdict {g : Gate} {limit : Option Nat} {waited : Nat} (h : g.verdict limit waited = none) :
    g.reply = none := by
  unfold verdict at h
  cases hr : g.reply with
  | none => rfl
  | some r => rw [hr] at h; cases h

/-- As long as there is no verdict the limit is ahead. -/
theorem lt_of_verdict {g : Gate} {l waited : Nat} (h : g.verdict (some l) waited = none) : waited < l := by
  have hreply := reply_of_verdict h
  unfold verdict at h
  rw [hreply] at h
  dsimp only at h
  by_cases hl : l ≤ waited
  · rw [if_pos hl] at h; cases h
  · omega

theorem verdict_unlimited {g : Gate} {waited : Nat} (h : g.reply = none) : g.verdict none waited = none := by
  simp [verdict, h]

theorem verdict_of_reply {g : Gate} {r : Reply} (h : g.reply = some r) (limit : Option Nat) (waited : Nat) :
    g.verdict limit waited = some r.confirmation := by
  simp [verdict, h]

end Gate

/-! ## Waiting -/

namespace Exchange

theorem waitOut_of_verdict {g : Gate} {d : Option Bool} {limit : Option Nat} {now : Nat}
    {c : Confirmation} (h : g.verdict limit now = some c) : waitOut g d limit now = ⟨some c, d, now⟩ := by
  simp [waitOut, h]

theorem waitOut_of_limit {g : Gate} {d : Option Bool} {l now : Nat} (h : g.verdict (some l) now = none) :
    waitOut g d (some l) now = ⟨some .timedOut, d, l⟩ := by
  simp [waitOut, h]

theorem waitOut_unlimited {g : Gate} {d : Option Bool} {now : Nat} (h : g.verdict none now = none) :
    waitOut g d none now = ⟨none, d, now⟩ := by
  simp [waitOut, h]

/-- A wait that goes on ends as it would have ended before. -/
theorem waitOut_later {g : Gate} {d : Option Bool} {l now ms : Nat}
    (h : g.verdict (some l) now = none) (hms : now + ms ≤ l) :
    waitOut g d (some l) (now + ms) = waitOut g d (some l) now := by
  rw [waitOut_of_limit h]
  have hreply := Gate.reply_of_verdict h
  by_cases hl : l ≤ now + ms
  · have heq : now + ms = l := by omega
    have hv : g.verdict (some l) l = some .timedOut := by simp [Gate.verdict, hreply]
    rw [heq, waitOut_of_verdict hv]
  · have hv : g.verdict (some l) (now + ms) = none := by simp [Gate.verdict, hreply, hl]
    exact waitOut_of_limit hv

/-- A wait is over by its limit. -/
theorem waitOut_elapsed {g : Gate} {d : Option Bool} {l now : Nat} (h : now ≤ l) :
    (waitOut g d (some l) now).elapsed ≤ l := by
  cases hv : g.verdict (some l) now with
  | some c => rw [waitOut_of_verdict hv]; exact h
  | none => simp only [waitOut_of_limit hv, Nat.le_refl]

end Exchange

/-! ## The whole exchange -/

/-- A reply as an act of the answering end. -/
def Reply.answer : Reply → Answer
  | .answered accepted => .resolve accepted
  | .dropped => .abandon

namespace Gate

/-- A reply that comes while somebody listens is there from then on. -/
theorem reply_record {g : Gate} {r : Reply} (hl : g.listening = true) (hr : g.reply = none) :
    (g.record r).reply = some r := by
  simp [record, hl, hr]

/-- Nothing follows a first reply. -/
theorem record_of_reply {g : Gate} {r : Reply} (h : g.reply = some r) (r' : Reply) : g.record r' = g := by
  simp [record, h]

/-- Nobody hears a reply once the waiting end is gone. -/
theorem record_of_closed {g : Gate} (h : g.listening = false) (r : Reply) : g.record r = g := by
  simp [record, h]

@[simp] theorem record_listening (g : Gate) (r : Reply) : (g.record r).listening = g.listening := by
  unfold record
  split <;> rfl

theorem verdict_of_none {g : Gate} (h : g.reply = none) (limit : Option Nat) (waited : Nat) :
    g.verdict limit waited = fresh.verdict limit waited := by
  simp [verdict, h, fresh]

/-- Without a reply the only verdict is that the limit is reached. -/
theorem eq_timedOut_of_verdict {limit : Option Nat} {waited : Nat} {c : Confirmation}
    (h : fresh.verdict limit waited = some c) : ∃ l, limit = some l ∧ l ≤ waited ∧ c = .timedOut := by
  cases limit with
  | none => cases h
  | some l =>
    have hverdict : (if l ≤ waited then some Confirmation.timedOut else none) = some c := h
    by_cases hl : l ≤ waited
    · rw [if_pos hl] at hverdict
      cases hverdict
      exact ⟨l, rfl, hl, rfl⟩
    · rw [if_neg hl] at hverdict
      cases hverdict

end Gate

namespace Exchange

/-- What comes before the waiting begins is the outcome, however short the limit is. -/
theorem run_replied (limit : Option Nat) (r : Reply) :
    (run limit r.answer .before).confirmation = some r.confirmation := by
  cases r with
  | answered accepted => cases accepted <;> rfl
  | dropped => rfl

/-- So is what comes while there is no verdict yet. -/
theorem run_replied_during {limit : Option Nat} {after : Nat} (r : Reply)
    (h : Gate.fresh.verdict limit after = none) :
    (run limit r.answer (.during after)).confirmation = some r.confirmation := by
  simp only [run, h]
  cases r with
  | answered accepted => cases accepted <;> rfl
  | dropped => rfl

/-- What comes when the limit is reached comes too late. -/
theorem run_late {l after : Nat} (a : Answer) (h : l ≤ after) :
    (run (some l) a (.during after)).confirmation = some .timedOut := by
  have hverdict : Gate.fresh.verdict (some l) after = some .timedOut := by simp [Gate.verdict, Gate.fresh, h]
  simp only [run, hverdict]

/-- If nothing comes, the limit is all there is to wait for. -/
theorem run_kept (l : Nat) : (run (some l) .keep .before).confirmation = some .timedOut := by
  show (waitOut Gate.fresh none (some l) 0).confirmation = some .timedOut
  cases hv : Gate.fresh.verdict (some l) 0 with
  | none => rw [waitOut_of_limit hv]
  | some c =>
    obtain ⟨_, _, _, rfl⟩ := Gate.eq_timedOut_of_verdict hv
    rw [waitOut_of_verdict hv]

end Exchange
end Kanban
