import Kanban.Proofs.Replay.Refinement
import Kanban.Proofs.Replay.Wrapped

/-!
# `Proofs.Replay.Checked` — replaying a scenario that has been checked

A scenario that makes sense has a board, and its replay comes to an end, in a time that the scenario itself
tells. What can go wrong on the way is only what somebody at the board could do wrong, too: to drop or
release a card that nobody drags, to drag two cards at once, or to drag a card that may not be dragged.

## Contents
- `Scenario.Excused`: the refusals that remain.
- `Sketch.step_isSome`, `step_columns`, `step_refused`: one step of a scenario that has been checked.
- `Sketch.play_isSome`, `play_refused`: all steps.
- `checked_replay`: the whole replay.
-/

namespace Kanban

variable {s : Scenario}

/-- What can still be refused in a scenario that has been checked. -/
def Scenario.Excused (s : Scenario) (fault : Fault) : Prop :=
  fault = .noActiveDrag ∨ (∃ card, fault = .dragInProgress card) ∨
    ∃ c ∈ s.cards, c.draggable = false ∧ fault = .notDraggable c.id

namespace Sketch

variable {k k' : Sketch}

/-! ## One step -/

theorem release_of_none (h : k.grip = none) (decision : Decision) :
    k.release s decision = some (k, .refused .noActiveDrag) := by
  rw [release, h]

theorem release_of_nowhere {g : Grip} (h : k.grip = some g) (ht : g.target = none) (decision : Decision) :
    k.release s decision = some ({ k with grip := none }, .released .noTarget) := by
  rw [release, h]
  simp only [ht]

theorem release_of_target {g : Grip} {target : String} (h : k.grip = some g) (ht : g.target = some target)
    (decision : Decision) : k.release s decision = k.confirm s g target decision := by
  rw [release, h]
  simp only [ht]

/-- A dialog that is left open has a limit for waiting. -/
theorem timeout_of_checkStep (h : s.checkStep (.release .never) = .ok ()) :
    s.confirmationTimeout ≠ some 0 := by
  unfold Scenario.checkStep at h
  rw [Setting.demand_eq_ok] at h
  intro hzero
  rw [Scenario.limit_eq_none.mpr hzero] at h
  simp at h

theorem confirm_isSome {decision : Decision} (h : s.checkStep (.release decision) = .ok ()) (k : Sketch)
    (g : Grip) (target : String) : (k.confirm s g target decision).isSome = true := by
  cases decision with
  | accept => rfl
  | reject => rfl
  | never =>
    unfold confirm
    rw [if_neg (timeout_of_checkStep h)]
    rfl

theorem carry_columns (k : Sketch) (card target : String) :
    (k.carry card target).columns.map (·.id) = k.columns.map (·.id) := by
  unfold carry
  rw [List.map_map]
  refine List.map_congr_left fun c _ => ?_
  show (if c.id = target then { c with cards := c.cards ++ [card] }
    else { c with cards := c.cards.filter (· ≠ card) }).id = c.id
  split <;> rfl

/-- A dialog does not refuse anything, and the columns stay where they are. -/
theorem confirm_eq_some {g : Grip} {target : String} {decision : Decision} {result : StepResult}
    (h : k.confirm s g target decision = some (k', result)) :
    (∃ outcome, result = .released outcome) ∧ k'.columns.map (·.id) = k.columns.map (·.id) := by
  cases decision with
  | accept => cases h; exact ⟨⟨_, rfl⟩, carry_columns ..⟩
  | reject => cases h; exact ⟨⟨_, rfl⟩, rfl⟩
  | never =>
    unfold confirm at h
    by_cases hzero : s.confirmationTimeout = some 0
    · rw [if_pos hzero] at h
      cases h
    · rw [if_neg hzero] at h
      cases h
      exact ⟨⟨_, rfl⟩, rfl⟩

/-- **Every step** of a scenario that has been checked comes to an end. -/
theorem step_isSome {x : ScenarioStep} (hx : s.checkStep x = .ok ()) (k : Sketch) :
    (k.step s x).isSome = true := by
  cases x with
  | start card left => rfl
  | move left => rfl
  | dropOn column => rfl
  | setDroppable column droppable => rfl
  | release decision =>
    show (k.release s decision).isSome = true
    cases hg : k.grip with
    | none => rw [release_of_none hg]; rfl
    | some g =>
      cases ht : g.target with
      | none => rw [release_of_nowhere hg ht]; rfl
      | some target =>
        rw [release_of_target hg ht]
        exact confirm_isSome hx k g target

/-- Cards move and columns open and close, but the columns stay where they are. -/
theorem step_columns {x : ScenarioStep} {result : StepResult} (h : k.step s x = some (k', result)) :
    k'.columns.map (·.id) = k.columns.map (·.id) := by
  cases x with
  | start card left =>
    unfold step start at h
    cases hg : k.grip with
    | some g => rw [hg] at h; cases h; rfl
    | none =>
      rw [hg] at h
      dsimp only at h
      cases hd : s.draggable? card with
      | none => rw [hd] at h; cases h; rfl
      | some plan => rw [hd] at h; cases h; rfl
  | move left =>
    unfold step move at h
    cases hg : k.grip with
    | none => rw [hg] at h; cases h; rfl
    | some g => rw [hg] at h; cases h; rfl
  | dropOn column =>
    unfold step dropOn at h
    cases hg : k.grip with
    | none => rw [hg] at h; cases h; rfl
    | some g => rw [hg] at h; cases h; rfl
  | release decision =>
    replace h : k.release s decision = some (k', result) := h
    cases hg : k.grip with
    | none => rw [release_of_none hg] at h; cases h; rfl
    | some g =>
      cases ht : g.target with
      | none => rw [release_of_nowhere hg ht] at h; cases h; rfl
      | some target =>
        rw [release_of_target hg ht] at h
        exact (confirm_eq_some h).2
  | setDroppable column droppable =>
    dsimp only [step, setDroppable] at h
    by_cases hany : k.columns.any (·.id = column) = true
    · rw [if_pos hany] at h
      cases h
      rw [List.map_map]
      refine List.map_congr_left fun c _ => ?_
      show (if c.id = column then { c with droppable } else c).id = c.id
      split <;> rfl
    · rw [if_neg hany] at h
      cases h
      rfl

/-- **What is refused** in a scenario that has been checked is excused, and it is not to open or close a
    column. -/
theorem step_refused {x : ScenarioStep} {fault : Fault} (hids : k.columns.map (·.id) = s.columnIds)
    (hx : s.checkStep x = .ok ()) (h : k.step s x = some (k', .refused fault)) :
    s.Excused fault ∧ ∀ column droppable, x ≠ .setDroppable column droppable := by
  cases x with
  | start card left =>
    refine ⟨?_, fun _ _ heq => (by cases heq)⟩
    -- The card is one of the plan, so if it is not found it may not be dragged.
    have hcard : card ∈ s.cardIds := Setting.known_eq_ok.mp (Fault.seq_eq_ok.mp hx).1
    obtain ⟨c, hc, rfl⟩ := List.mem_map.mp hcard
    unfold step start at h
    cases hg : k.grip with
    | some g =>
      rw [hg] at h
      cases h
      exact Or.inr (Or.inl ⟨_, rfl⟩)
    | none =>
      rw [hg] at h
      dsimp only at h
      cases hd : s.draggable? c.id with
      | some plan => rw [hd] at h; cases h
      | none =>
        rw [hd] at h
        cases h
        exact Or.inr (Or.inr ⟨c, hc, Scenario.draggable?_eq_none.mp hd c hc rfl, rfl⟩)
  | move left =>
    refine ⟨?_, fun _ _ heq => (by cases heq)⟩
    unfold step move at h
    cases hg : k.grip with
    | none => rw [hg] at h; cases h; exact Or.inl rfl
    | some g => rw [hg] at h; cases h
  | dropOn column =>
    refine ⟨?_, fun _ _ heq => (by cases heq)⟩
    unfold step dropOn at h
    cases hg : k.grip with
    | none => rw [hg] at h; cases h; exact Or.inl rfl
    | some g => rw [hg] at h; cases h
  | release decision =>
    refine ⟨?_, fun _ _ heq => (by cases heq)⟩
    replace h : k.release s decision = some (k', .refused fault) := h
    cases hg : k.grip with
    | none => rw [release_of_none hg] at h; cases h; exact Or.inl rfl
    | some g =>
      cases ht : g.target with
      | none => rw [release_of_nowhere hg ht] at h; cases h
      | some target =>
        rw [release_of_target hg ht] at h
        obtain ⟨⟨outcome, houtcome⟩, _⟩ := confirm_eq_some h
        cases houtcome
  | setDroppable column droppable =>
    -- The column is one of the plan and has stayed where it was, so it is found.
    have hcolumn : column ∈ s.columnIds := Setting.known_eq_ok.mp hx
    rw [← hids] at hcolumn
    obtain ⟨c, hc, hid⟩ := List.mem_map.mp hcolumn
    have hany : (k.columns.any (·.id = column)) = true :=
      List.any_eq_true.mpr ⟨c, hc, decide_eq_true hid⟩
    dsimp only [step, setDroppable] at h
    rw [if_pos hany] at h
    cases h

/-! ## All steps -/

/-- Playing one step and then the others. -/
theorem play_cons {x : ScenarioStep} {rest : List ScenarioStep} {results : List StepResult}
    (h : k.play s (x :: rest) = some (k', results)) :
    ∃ k₁ result later, k.step s x = some (k₁, result) ∧ k₁.play s rest = some (k', later) ∧
      results = result :: later := by
  unfold play at h
  cases hs : k.step s x with
  | none => rw [hs] at h; cases h
  | some q =>
    obtain ⟨k₁, result⟩ := q
    rw [hs] at h
    simp only [bind, Option.bind] at h
    cases hp : k₁.play s rest with
    | none => rw [hp] at h; cases h
    | some q =>
      obtain ⟨k₂, later⟩ := q
      rw [hp] at h
      cases h
      exact ⟨k₁, result, later, rfl, hp, rfl⟩

/-- **All steps** of a scenario that has been checked come to an end. -/
theorem play_isSome {steps : List ScenarioStep} (hx : ∀ x ∈ steps, s.checkStep x = .ok ()) (k : Sketch) :
    (k.play s steps).isSome = true := by
  induction steps generalizing k with
  | nil => rfl
  | cons x rest ih =>
    obtain ⟨⟨k₁, result⟩, hs⟩ := Option.isSome_iff_exists.mp (step_isSome (hx x List.mem_cons_self) k)
    obtain ⟨⟨k₂, later⟩, hp⟩ :=
      Option.isSome_iff_exists.mp (ih (fun y hy => hx y (List.mem_cons_of_mem x hy)) k₁)
    unfold play
    simp only [hs, bind, Option.bind, hp]
    rfl

/-- Every step has turned out in some way. -/
theorem play_length {steps : List ScenarioStep} {results : List StepResult}
    (h : k.play s steps = some (k', results)) : results.length = steps.length := by
  induction steps generalizing k results with
  | nil => cases h; rfl
  | cons x rest ih =>
    obtain ⟨k₁, result, later, _, hp, rfl⟩ := play_cons h
    rw [List.length_cons, List.length_cons, ih hp]

/-- **All refusals** in a scenario that has been checked are excused. -/
theorem play_refused {steps : List ScenarioStep} {results : List StepResult}
    (hids : k.columns.map (·.id) = s.columnIds) (hx : ∀ x ∈ steps, s.checkStep x = .ok ())
    (h : k.play s steps = some (k', results)) {x : ScenarioStep} {fault : Fault}
    (hmem : (x, .refused fault) ∈ steps.zip results) :
    s.Excused fault ∧ ∀ column droppable, x ≠ .setDroppable column droppable := by
  induction steps generalizing k results with
  | nil => cases hmem
  | cons y rest ih =>
    obtain ⟨k₁, result, later, hs, hp, rfl⟩ := play_cons h
    rw [List.zip_cons_cons] at hmem
    rcases List.mem_cons.mp hmem with heq | hmem
    · cases heq
      exact step_refused hids (hx x List.mem_cons_self) hs
    · exact ih ((step_columns hs).trans hids) (fun z hz => hx z (List.mem_cons_of_mem y hz)) hp hmem

end Sketch

/-! ## The whole replay -/

/-- **A scenario that has been checked can be replayed.** It has a board. Its replay beside any refresher
    never crashes, whoever goes on first and however many interactions are in progress elsewhere, and comes to
    a report on all of its steps, before more time has passed than its open dialogs may take together; played
    in one go, the steps come to the same report. Every refusal in the report is excused, and columns can
    always be opened and closed.

    The count of interactions is a machine word here. If the others alone make it the greatest word, the first
    card that is taken up wraps it around, and then only the count in the report is another one. For all
    smaller numbers nothing ever wraps. -/
theorem checked_replay (s : Scenario) (h : s.check = .ok ()) :
    ∃ b, s.board = .ok b ∧ ∀ (n : UInt64) (choose : Nat → Choice),
      let run := (Runner.begin s b n.toNat).afterWrapped choose
      ∃ k report,
        (∀ m, (run m).crashed = false) ∧
        (∀ m, (run m).report s = if k ≤ m then some (.ok report) else none) ∧
        (∀ m, (run m).now ≤ s.steps.countP Replay.leavesOpen * s.limit.getD 0) ∧
        (∃ count elapsed log,
          s.replay n.toNat = .ok (.finished { report with activity := count } elapsed log) ∧
            elapsed ≤ s.steps.countP Replay.leavesOpen * s.limit.getD 0 ∧
            (n.toNat + 1 < UInt64.size → count = report.activity)) ∧
        report.steps.map (·.1) = s.steps ∧
        (∀ x fault, (x, .refused fault) ∈ report.steps →
          s.Excused fault ∧ ∀ column droppable, x ≠ .setDroppable column droppable) ∧
        (n.toNat + 1 < UInt64.size → run = (Runner.begin s b n.toNat).after choose) := by
  have hb : s.board = .ok (Scenario.laidOut s.columns) :=
    Scenario.board_eq_ok.mpr ⟨Scenario.columnIds_of_check h, Scenario.cardIds_of_check h, rfl⟩
  refine ⟨_, hb, fun n choose => ?_⟩
  have hsteps := Scenario.checkStep_of_check h
  have hids : (Sketch.begin s).columns.map (·.id) = s.columnIds := (Shows.of_board hb).ids
  -- On paper all steps come to an end, and the replay does what the paper says.
  obtain ⟨⟨k, results⟩, hk⟩ := Option.isSome_iff_exists.mp (Sketch.play_isSome hsteps (Sketch.begin s))
  have hsketch : s.sketch n.toNat = some (k.report s n.toNat results) := by
    rw [Scenario.sketch, hk]
    rfl
  have hplay := play_eq_sketch hb n.toNat
  rw [hsketch] at hplay
  obtain ⟨r, results', hrun, hreport⟩ := hplay
  have hreplay := replay_of_play hb (Scenario.refreshInterval_of_check h) hrun hreport
  have helapsed : r.elapsed ≤ s.steps.countP Replay.leavesOpen * s.limit.getD 0 := by
    have hplayed := Replay.play_elapsed hrun
    have hlimit : (Replay.begin s (Scenario.laidOut s.columns) n.toNat).controller.limit = s.limit :=
      (Follows.begin hb n.toNat).limit
    rw [hlimit] at hplayed
    have hzero : (Replay.begin s (Scenario.laidOut s.columns) n.toNat).elapsed = 0 := rfl
    omega
  -- The run does what the replay does, and wrapping its count changes nothing but the count.
  have hbegin : Runner.Sound (some (r, results')) (Runner.begin s (Scenario.laidOut s.columns) n.toNat) :=
    hrun ▸ Runner.sound_begin (Scenario.refreshInterval_of_check h)
  have hcounted : Player.Counted n.toNat (Runner.begin s (Scenario.laidOut s.columns) n.toNat).player :=
    (Player.counted_iff rfl).mpr (Replay.counted_begin ..)
  obtain ⟨last, count, hlast⟩ :=
    Runner.report_afterWrapped hbegin (Runner.wrapped_of_lt (UInt64.toNat_lt_size n)) s choose
  rw [hreport] at hlast
  refine ⟨last, { k.report s n.toNat results with activity := count },
    fun m => (Runner.afterWrapped_sound hbegin choose m).1, hlast, fun m => ?_,
    ⟨_, r.elapsed, _, hreplay, helapsed, fun hn => ?_⟩, ?_, fun x fault hmem => ?_, fun hn => ?_⟩
  · rw [(Runner.afterWrapped_sound hbegin choose m).2]
    exact Nat.le_trans (Runner.now_after_le hbegin choose m) helapsed
  · have hover := Runner.report_afterWrapped_of_lt hbegin hcounted hn
      ((hlast last).trans (if_pos (Nat.le_refl last)))
    rw [hreport] at hover
    exact congrArg Report.activity (Except.ok.inj hover)
  · exact List.map_fst_zip (Nat.le_of_eq (Sketch.play_length hk).symm)
  · exact Sketch.play_refused hids hsteps hk hmem
  · exact funext (Runner.afterWrapped_of_lt hcounted hn choose)

/-- A dialog is left open in a scenario that is refreshed in the background, and then a card is dragged that
    may not be. -/
def leftOpen : Scenario where
  name := "triage"
  description := none
  confirmationTimeout := some 20
  refresh := some ⟨true, some 10⟩
  viewport := ⟨0, 500, 500, 0⟩
  columns := [⟨"todo", true, true, [⟨"c1", true, 100, .null⟩, ⟨"c2", false, 100, .null⟩]⟩,
    ⟨"done", true, true, []⟩]
  steps := [.start "c1" 0, .dropOn "done", .release .never, .start "c2" 0, .move 10]

/-- Its replay is over within the limit of the one dialog, also if the count is the greatest word before. -/
theorem checked_replay_leftOpen :
    leftOpen.check = .ok () ∧ ∃ b, leftOpen.board = .ok b ∧
      let n := UInt64.ofNat (UInt64.size - 1)
      let run := (Runner.begin leftOpen b n.toNat).afterWrapped fun i => ⟨i % 2 = 0, true⟩
      ∃ k report, (∀ m, (run m).crashed = false) ∧ (run k).report leftOpen = some (.ok report) ∧
        (∀ m, (run m).now ≤ 20) ∧
        (∃ count elapsed log,
          leftOpen.replay n.toNat = .ok (.finished { report with activity := count } elapsed log) ∧
            elapsed ≤ 20) ∧
        report.steps.map (·.1) = leftOpen.steps ∧
        ∀ x fault, (x, .refused fault) ∈ report.steps →
          leftOpen.Excused fault ∧ ∀ column droppable, x ≠ .setDroppable column droppable := by
  have h : leftOpen.check = .ok () := by rfl
  obtain ⟨b, hb, hreplay⟩ := checked_replay leftOpen h
  obtain ⟨k, report, hcrashed, hreport, hnow, ⟨count, elapsed, log, hplayed, helapsed, _⟩, hsteps,
    hrefused, _⟩ := hreplay (UInt64.ofNat (UInt64.size - 1)) fun i => ⟨i % 2 = 0, true⟩
  exact ⟨h, b, hb, k, report, hcrashed, (hreport k).trans (if_pos (Nat.le_refl k)), hnow,
    ⟨count, elapsed, log, hplayed, helapsed⟩, hsteps, hrefused⟩

end Kanban
