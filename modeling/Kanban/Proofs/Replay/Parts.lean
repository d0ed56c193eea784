import Kanban.Proofs.Replay.Checked

/-!
# `Proofs.Replay.Parts` — a sketch in parts

What a sketch says of later steps depends on the columns, the offset and the card that is dragged, and on
nothing else that is on the paper. Of the scenario it depends on the rules: which cards may be dragged, which
columns accept drops, how large the viewport is, and whether a dialog may be left open.

## Contents
- `Sketch.play_cons_eq`, `Sketch.play_append`: steps in parts.
- `Sketch.recalling`, `play_recalling`: what was told before makes no difference.
- `Scenario.SameRules`, `play_congr`: nor does anything of a scenario but its rules.
- `Sketch.Planned`, `planned_play`: only cards of the scenario are on the paper.
-/

namespace Kanban

variable {s s' : Scenario}

namespace Sketch

variable {k k' : Sketch}

/-- One step and then the others, as one expression. -/
theorem play_cons_eq (k : Sketch) (x : ScenarioStep) (rest : List ScenarioStep) :
    k.play s (x :: rest) = (k.step s x).bind fun (k', result) =>
      (k'.play s rest).map fun (k'', later) => (k'', result :: later) := by
  rw [play]
  cases k.step s x with
  | none => rfl
  | some next =>
    simp only [bind, Option.bind]
    cases next.1.play s rest <;> rfl

/-- **Steps in two parts.** -/
theorem play_append (k : Sketch) (xs ys : List ScenarioStep) :
    k.play s (xs ++ ys) = (k.play s xs).bind fun (k', results) =>
      (k'.play s ys).map fun (k'', later) => (k'', results ++ later) := by
  induction xs generalizing k with
  | nil =>
    show k.play s ys = (k.play s ys).map fun (k', later) => (k', later)
    exact Option.map_id'.symm
  | cons x rest ih =>
    rw [List.cons_append, play_cons_eq, play_cons_eq]
    cases k.step s x with
    | none => rfl
    | some next =>
      simp only [Option.bind, ih]
      cases next.1.play s rest with
      | none => rfl
      | some first =>
        simp only [Option.map]
        cases first.1.play s ys <;> rfl

/-! ## What was told before -/

/-- The paper with issues that were told before all that is on it. -/
def recalling (k : Sketch) (starts requests : List Payload) : Sketch :=
  { k with starts := starts ++ k.starts, requests := requests ++ k.requests }

variable {starts requests : List Payload}

theorem start_recalling (k : Sketch) (card : String) :
    (k.recalling starts requests).start s card =
      ((k.start s card).1.recalling starts requests, (k.start s card).2) := by
  obtain ⟨columns, offset, grip, told, asked⟩ := k
  unfold start
  cases grip with
  | some g => rfl
  | none =>
    dsimp only [recalling]
    cases s.draggable? card with
    | none => rfl
    | some plan =>
      dsimp only
      rw [List.append_assoc]
      rfl

theorem move_recalling (k : Sketch) (left : Float) :
    (k.recalling starts requests).move s left =
      ((k.move s left).1.recalling starts requests, (k.move s left).2) := by
  obtain ⟨columns, offset, grip, told, asked⟩ := k
  cases grip <;> rfl

theorem dropOn_recalling (k : Sketch) (column : String) :
    (k.recalling starts requests).dropOn s column =
      ((k.dropOn s column).1.recalling starts requests, (k.dropOn s column).2) := by
  obtain ⟨columns, offset, grip, told, asked⟩ := k
  cases grip <;> rfl

theorem ask_recalling (k : Sketch) (g : Grip) :
    (k.recalling starts requests).ask g = (k.ask g).recalling starts requests := by
  unfold ask recalling
  dsimp only
  rw [List.append_assoc]

theorem confirm_recalling (k : Sketch) (g : Grip) (target : String) (decision : Decision) :
    (k.recalling starts requests).confirm s g target decision =
      (k.confirm s g target decision).map fun (k', result) => (k'.recalling starts requests, result) := by
  cases decision with
  | accept =>
    unfold confirm
    rw [ask_recalling]
    rfl
  | reject =>
    unfold confirm
    rw [ask_recalling]
    rfl
  | never =>
    unfold confirm
    rw [ask_recalling]
    by_cases hzero : s.confirmationTimeout = some 0
    · rw [if_pos hzero, if_pos hzero]
      rfl
    · rw [if_neg hzero, if_neg hzero]
      rfl

theorem release_recalling (k : Sketch) (decision : Decision) :
    (k.recalling starts requests).release s decision =
      (k.release s decision).map fun (k', result) => (k'.recalling starts requests, result) := by
  have hgrip : (k.recalling starts requests).grip = k.grip := rfl
  cases hg : k.grip with
  | none =>
    rw [release_of_none hg, release_of_none (hgrip.trans hg)]
    rfl
  | some g =>
    cases ht : g.target with
    | none =>
      rw [release_of_nowhere hg ht, release_of_nowhere (hgrip.trans hg) ht]
      rfl
    | some target =>
      rw [release_of_target hg ht, release_of_target (hgrip.trans hg) ht]
      exact confirm_recalling k g target decision

theorem setDroppable_recalling (k : Sketch) (column : String) (droppable : Bool) :
    (k.recalling starts requests).setDroppable column droppable =
      ((k.setDroppable column droppable).1.recalling starts requests,
        (k.setDroppable column droppable).2) := by
  unfold setDroppable recalling
  dsimp only
  split <;> rfl

/-- **One step** does not depend on what was told before. -/
theorem step_recalling (k : Sketch) (x : ScenarioStep) :
    (k.recalling starts requests).step s x =
      (k.step s x).map fun (k', result) => (k'.recalling starts requests, result) := by
  cases x with
  | start card left => exact congrArg some (start_recalling k card)
  | move left => exact congrArg some (move_recalling k left)
  | dropOn column => exact congrArg some (dropOn_recalling k column)
  | release decision => exact release_recalling k decision
  | setDroppable column droppable => exact congrArg some (setDroppable_recalling k column droppable)

/-- **Nor do all steps.** -/
theorem play_recalling (k : Sketch) (steps : List ScenarioStep) :
    (k.recalling starts requests).play s steps =
      (k.play s steps).map fun (k', results) => (k'.recalling starts requests, results) := by
  induction steps generalizing k with
  | nil => rfl
  | cons x rest ih =>
    rw [play_cons_eq, play_cons_eq, step_recalling]
    cases k.step s x with
    | none => rfl
    | some next =>
      simp only [Option.map_some, Option.bind, ih]
      cases next.1.play s rest <;> rfl

end Sketch

/-! ## The rules of a scenario -/

/-- **Two scenarios with the same rules.** Their columns may list different cards and be open or closed. -/
structure Scenario.SameRules (s s' : Scenario) : Prop where
  accepts : ∀ column, s'.accepts column = s.accepts column
  draggable? : ∀ card, s'.draggable? card = s.draggable? card
  viewport : ∃ offset, s'.viewport = { s.viewport with offset }
  timeout : s'.confirmationTimeout = s.confirmationTimeout

namespace Sketch

variable {k k' : Sketch}

/-- **One step** depends on the rules alone. -/
theorem step_congr (h : s.SameRules s') (k : Sketch) (x : ScenarioStep) : k.step s' x = k.step s x := by
  obtain ⟨offset, hviewport⟩ := h.viewport
  cases x with
  | start card left => simp only [step, start, h.draggable?]
  | move left => simp only [step, move, hviewport]
  | dropOn column =>
    have hcounts : ∀ g, k.counts s' g column = k.counts s g column := by
      intro g
      rw [counts, counts, h.accepts]
    simp only [step, dropOn, hcounts]
  | release decision =>
    have hconfirm : ∀ (g : Grip) target, k.confirm s' g target decision = k.confirm s g target decision := by
      intro g target
      cases decision <;> simp only [confirm, h.timeout]
    simp only [step, release, hconfirm]
  | setDroppable column droppable => rfl

/-- **So do all steps.** -/
theorem play_congr (h : s.SameRules s') (k : Sketch) (steps : List ScenarioStep) :
    k.play s' steps = k.play s steps := by
  induction steps generalizing k with
  | nil => rfl
  | cons x rest ih =>
    rw [play_cons_eq, play_cons_eq, step_congr h]
    simp only [ih]

/-! ## Cards of the plan -/

/-- Only cards of the scenario are on the paper. -/
structure Planned (s : Scenario) (k : Sketch) : Prop where
  listed : ∀ c ∈ k.columns, ∀ x ∈ c.cards, x ∈ s.cardIds
  grip : ∀ g, k.grip = some g → g.card ∈ s.cards

theorem planned_begin (s : Scenario) : (begin s).Planned s := by
  refine ⟨?_, fun g hg => (by cases hg)⟩
  intro c hc x hx
  obtain ⟨column, hcolumn, rfl⟩ := List.mem_map.mp hc
  obtain ⟨card, hcard, rfl⟩ := List.mem_map.mp hx
  exact List.mem_map_of_mem (List.mem_flatMap.mpr ⟨column, hcolumn, hcard⟩)

/-- What is listed stays, and nobody is dragged any more. -/
theorem Planned.of_released (h : k.Planned s) (hc : k'.columns = k.columns) (hg : k'.grip = none) :
    k'.Planned s := by
  refine ⟨hc ▸ h.listed, fun g hsome => ?_⟩
  rw [hg] at hsome
  cases hsome

theorem Planned.carry (h : k.Planned s) {g : Grip} (hg : g.card ∈ s.cards) (target : String) :
    ((k.ask g).carry g.card.id target).Planned s := by
  refine ⟨?_, fun g' hg' => (by cases hg')⟩
  intro c hc x hx
  obtain ⟨c', hc', rfl⟩ := List.mem_map.mp hc
  split at hx
  · -- The card that has been carried is the one that was dragged.
    rcases List.mem_append.mp hx with hx | hx
    · exact h.listed c' hc' x hx
    · rw [List.mem_singleton.mp hx]
      exact List.mem_map_of_mem hg
  · exact h.listed c' hc' x (List.mem_of_mem_filter hx)

theorem Planned.confirm {g : Grip} {target : String} {decision : Decision} {result : StepResult}
    (h : k.Planned s) (hg : g.card ∈ s.cards) (hk : k.confirm s g target decision = some (k', result)) :
    k'.Planned s := by
  cases decision with
  | accept =>
    cases hk
    exact h.carry hg target
  | reject =>
    cases hk
    exact h.of_released rfl rfl
  | never =>
    unfold Sketch.confirm at hk
    by_cases hzero : s.confirmationTimeout = some 0
    · rw [if_pos hzero] at hk
      cases hk
    · rw [if_neg hzero] at hk
      cases hk
      exact h.of_released rfl rfl

/-- **One step** keeps to the cards of the scenario. -/
theorem planned_step {x : ScenarioStep} {result : StepResult} (h : k.Planned s)
    (hk : k.step s x = some (k', result)) : k'.Planned s := by
  cases x with
  | start card left =>
    unfold step start at hk
    cases hg : k.grip with
    | some g => rw [hg] at hk; cases hk; exact h
    | none =>
      rw [hg] at hk
      dsimp only at hk
      cases hd : s.draggable? card with
      | none => rw [hd] at hk; cases hk; exact h
      | some plan =>
        rw [hd] at hk
        cases hk
        refine ⟨h.listed, fun g hg' => ?_⟩
        cases hg'
        exact (Scenario.draggable?_eq_some hd).1
  | move left =>
    unfold step move at hk
    cases hg : k.grip with
    | none => rw [hg] at hk; cases hk; exact h
    | some g =>
      rw [hg] at hk
      cases hk
      exact ⟨h.listed, fun g' hg' => h.grip g' (hg.trans hg')⟩
  | dropOn column =>
    unfold step dropOn at hk
    cases hg : k.grip with
    | none => rw [hg] at hk; cases hk; exact h
    | some g =>
      rw [hg] at hk
      cases hk
      refine ⟨h.listed, fun g' hg' => ?_⟩
      cases hg'
      exact h.grip g hg
  | release decision =>
    replace hk : k.release s decision = some (k', result) := hk
    cases hg : k.grip with
    | none => rw [release_of_none hg] at hk; cases hk; exact h
    | some g =>
      cases ht : g.target with
      | none =>
        rw [release_of_nowhere hg ht] at hk
        cases hk
        exact h.of_released rfl rfl
      | some target =>
        rw [release_of_target hg ht] at hk
        exact h.confirm (h.grip g hg) hk
  | setDroppable column droppable =>
    dsimp only [step, setDroppable] at hk
    split at hk
    · cases hk
      refine ⟨?_, h.grip⟩
      intro c hc x hx
      obtain ⟨c', hc', rfl⟩ := List.mem_map.mp hc
      refine h.listed c' hc' x ?_
      split at hx <;> exact hx
    · cases hk
      exact h

/-- **So do all steps.** -/
theorem planned_play {steps : List ScenarioStep} {results : List StepResult} (h : k.Planned s)
    (hk : k.play s steps = some (k', results)) : k'.Planned s := by
  induction steps generalizing k results with
  | nil =>
    cases hk
    exact h
  | cons x rest ih =>
    obtain ⟨k₁, result, later, hs, hp, _⟩ := play_cons hk
    exact ih (planned_step h hs) hp

end Sketch
end Kanban
