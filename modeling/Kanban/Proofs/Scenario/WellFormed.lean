import Kanban.Proofs.Scenario.Check

/-!
# `Proofs.Scenario.WellFormed` — which scenarios make sense, and what the others are blamed for

A scenario passes its check exactly if it keeps all the rules of a board file. Whatever it is refused for is
there: the setting that is named breaks its own rule, with the value that is shown, or it is missing.

## Contents
- `Scenario.WellFormed`: the rules. `Scenario.Offends`: the ways to break one of them, each with its report.
- `Offends.not_wellFormed`: a report is never about a scenario that keeps the rules.
- `checkViewport_eq_ok`, `checkTimeout_eq_ok`, `checkRefresh_eq_ok`, `checkStep_eq_ok`, `StepFits`: what each
  part of the check accepts.
- `offends_of_checkViewport`, `offends_of_checkTimeout`, `offends_of_checkRefresh`, `offends_of_checkColumns`,
  `offends_of_checkStep`: what each part refuses.
- `check_accepts_or_blames`: the whole check.
-/

namespace Kanban.Scenario

open Setting (Misnames)

variable {s : Scenario} {fault : Fault}

/-! ## The rules -/

/-- **The rules of a board file.** -/
structure WellFormed (s : Scenario) : Prop where
  name : Text.isBlank s.name = false
  width : s.viewport.width.isFinite = true ∧ 0 < s.viewport.width
  contentWidth : s.viewport.contentWidth.isFinite = true ∧ 0 ≤ s.viewport.contentWidth
  offset : s.viewport.offset.isFinite = true ∧ 0 ≤ s.viewport.offset
  left : s.viewport.left.isFinite = true
  timeout : ∀ ms, s.confirmationTimeout = some ms → ms ≤ 3600000
  refresh : ∀ r, s.refresh = some r → r.enabled = true → ∃ ms, r.interval = some ms ∧ 10 ≤ ms ∧ ms ≤ 600000
  columns : s.columns ≠ []
  columnIds : (∀ id ∈ s.columnIds, Text.isBlank id = false) ∧ s.columnIds.Nodup
  /-- The identifiers of cards differ over all columns together. -/
  cardIds : (∀ id ∈ s.cardIds, Text.isBlank id = false) ∧ s.cardIds.Nodup
  cardWidths : ∀ c ∈ s.cards, c.width.isFinite = true ∧ 0 < c.width
  starts : ∀ card left, .start card left ∈ s.steps → card ∈ s.cardIds ∧ left.isFinite = true
  moves : ∀ left, .move left ∈ s.steps → left.isFinite = true
  drops : ∀ column, .dropOn column ∈ s.steps → column ∈ s.columnIds
  switches : ∀ column droppable, .setDroppable column droppable ∈ s.steps → column ∈ s.columnIds
  /-- A release that is never answered has to end some day. -/
  answers : s.confirmationTimeout = some 0 → .release .never ∉ s.steps

/-- **A broken rule and its report**, which names the setting, shows its value and gives the reason; a setting
    that is missing has no value. -/
inductive Offends (s : Scenario) : Fault → Prop where
  | name : Text.isBlank s.name = true →
      Offends s (.invalidSetting "board.name" s.name "Value cannot be empty or whitespace-only")
  | width : ¬ (s.viewport.width.isFinite = true ∧ 0 < s.viewport.width) →
      Offends s (.invalidSetting "viewport.width" (Decimal.plain.write s.viewport.width)
        "Value must be a finite number greater than 0")
  | contentWidth : ¬ (s.viewport.contentWidth.isFinite = true ∧ 0 ≤ s.viewport.contentWidth) →
      Offends s (.invalidSetting "viewport.content_width" (Decimal.plain.write s.viewport.contentWidth)
        "Value must be a finite number of at least 0")
  | offset : ¬ (s.viewport.offset.isFinite = true ∧ 0 ≤ s.viewport.offset) →
      Offends s (.invalidSetting "viewport.scroll_offset" (Decimal.plain.write s.viewport.offset)
        "Value must be a finite number of at least 0")
  | left : s.viewport.left.isFinite = false →
      Offends s (.invalidSetting "viewport.left" (Decimal.plain.write s.viewport.left) "Value must be finite")
  | timeout {ms : Nat} : s.confirmationTimeout = some ms → 3600000 < ms →
      Offends s (.invalidSetting "drag.confirmation_timeout_ms" (toString ms)
        "Value must be between 0 and 3600000")
  | noInterval {r : RefreshPlan} : s.refresh = some r → r.enabled = true → r.interval = none →
      Offends s (.missingSetting "refresh.interval_ms")
  | interval {r : RefreshPlan} {ms : Nat} : s.refresh = some r → r.enabled = true → r.interval = some ms →
      ms < 10 ∨ 600000 < ms →
      Offends s (.invalidSetting "refresh.interval_ms" (toString ms) "Value must be between 10 and 600000")
  | columns : s.columns = [] → Offends s (.missingSetting "columns")
  | columnIds {fault : Fault} : Misnames "columns.id" s.columnIds fault → Offends s fault
  | cardIds {fault : Fault} : Misnames "columns.cards.id" s.cardIds fault → Offends s fault
  | cardWidth {c : CardPlan} : c ∈ s.cards → ¬ (c.width.isFinite = true ∧ 0 < c.width) →
      Offends s (.invalidSetting "columns.cards.width" (Decimal.plain.write c.width)
        "Value must be a finite number greater than 0")
  | startCard {card : String} {left : Float} : .start card left ∈ s.steps → card ∉ s.cardIds →
      Offends s (.invalidSetting "steps.card" card "Refers to an id that is not defined on the board")
  | startLeft {card : String} {left : Float} : .start card left ∈ s.steps → left.isFinite = false →
      Offends s (.invalidSetting "steps.left" (Decimal.plain.write left) "Value must be finite")
  | move {left : Float} : .move left ∈ s.steps → left.isFinite = false →
      Offends s (.invalidSetting "steps.helper_left" (Decimal.plain.write left) "Value must be finite")
  | drop {column : String} : .dropOn column ∈ s.steps → column ∉ s.columnIds →
      Offends s (.invalidSetting "steps.column" column "Refers to an id that is not defined on the board")
  | switch {column : String} {droppable : Bool} : .setDroppable column droppable ∈ s.steps →
      column ∉ s.columnIds →
      Offends s (.invalidSetting "steps.column" column "Refers to an id that is not defined on the board")
  | answer : .release .never ∈ s.steps → s.confirmationTimeout = some 0 →
      Offends s (.invalidSetting "steps.confirm" "never"
        "An unanswered confirmation needs drag.confirmation_timeout_ms > 0")

/-- Identifiers that are misnamed are not filled or do not differ. -/
theorem not_distinct_of_misnames {field : String} {ids : List String} (h : Misnames field ids fault) :
    ¬ ((∀ id ∈ ids, Text.isBlank id = false) ∧ ids.Nodup) := by
  rintro ⟨hfilled, hnodup⟩
  cases h with
  | @blank id hmem hblank =>
    rw [hfilled id hmem] at hblank
    cases hblank
  | @repeated id htwice =>
    have honce : ids.count id ≤ 1 := List.nodup_iff_count.mp hnodup id
    omega

/-- A report is never about a scenario that keeps the rules. -/
theorem Offends.not_wellFormed (h : s.Offends fault) : ¬ s.WellFormed := by
  intro hs
  cases h with
  | name hblank => exact Bool.false_ne_true (hs.name.symm.trans hblank)
  | width hwidth => exact hwidth hs.width
  | contentWidth hwidth => exact hwidth hs.contentWidth
  | offset hoffset => exact hoffset hs.offset
  | left hleft => exact Bool.false_ne_true (hleft.symm.trans hs.left)
  | timeout htimeout hlong => exact absurd (hs.timeout _ htimeout) (Nat.not_le.mpr hlong)
  | noInterval hr hon hnone =>
    obtain ⟨ms, hms, _⟩ := hs.refresh _ hr hon
    rw [hnone] at hms
    cases hms
  | interval hr hon hms hout =>
    obtain ⟨ms, hms', hleast, hgreatest⟩ := hs.refresh _ hr hon
    rw [hms] at hms'
    cases hms'
    omega
  | columns hnil => exact hs.columns hnil
  | columnIds hids => exact not_distinct_of_misnames hids hs.columnIds
  | cardIds hids => exact not_distinct_of_misnames hids hs.cardIds
  | cardWidth hc hwidth => exact hwidth (hs.cardWidths _ hc)
  | startCard hx hcard => exact hcard (hs.starts _ _ hx).1
  | startLeft hx hleft => exact Bool.false_ne_true (hleft.symm.trans (hs.starts _ _ hx).2)
  | move hx hleft => exact Bool.false_ne_true (hleft.symm.trans (hs.moves _ hx))
  | drop hx hcolumn => exact hcolumn (hs.drops _ hx)
  | switch hx hcolumn => exact hcolumn (hs.switches _ _ hx)
  | answer hx hzero => exact hs.answers hzero hx

/-! ## What the check accepts -/

theorem checkViewport_eq_ok {v : ViewportPlan} :
    checkViewport v = .ok () ↔ (v.width.isFinite = true ∧ 0 < v.width) ∧
      (v.contentWidth.isFinite = true ∧ 0 ≤ v.contentWidth) ∧ (v.offset.isFinite = true ∧ 0 ≤ v.offset) ∧
      v.left.isFinite = true := by
  unfold checkViewport
  rw [Fault.seq_eq_ok, Fault.seq_eq_ok, Fault.seq_eq_ok, Setting.positive_eq_ok, Setting.nonNegative_eq_ok,
    Setting.nonNegative_eq_ok, Setting.finite_eq_ok]

theorem checkTimeout_eq_ok {limit : Option Nat} :
    checkTimeout limit = .ok () ↔ ∀ ms, limit = some ms → ms ≤ 3600000 := by
  cases limit with
  | none => simp [checkTimeout]
  | some ms =>
    unfold checkTimeout
    rw [Setting.within_eq_ok]
    simp [maxConfirmationTimeout]

theorem checkRefresh_eq_ok {plan : Option RefreshPlan} :
    checkRefresh plan = .ok () ↔
      ∀ r, plan = some r → r.enabled = true → ∃ ms, r.interval = some ms ∧ 10 ≤ ms ∧ ms ≤ 600000 := by
  cases plan with
  | none => simp [checkRefresh]
  | some r =>
    unfold checkRefresh
    by_cases hon : r.enabled = true
    · simp [hon, Fault.bind_eq_ok, Setting.required_eq_ok, Setting.within_eq_ok]
    · simp [hon]

/-- A step that names what there is, moves to a finite place and can come to an end. -/
def StepFits (s : Scenario) : ScenarioStep → Prop
  | .start card left => card ∈ s.cardIds ∧ left.isFinite = true
  | .move left => left.isFinite = true
  | .dropOn column | .setDroppable column _ => column ∈ s.columnIds
  | .release decision => ¬ (decision = .never ∧ s.confirmationTimeout = some 0)

theorem checkStep_eq_ok {x : ScenarioStep} : s.checkStep x = .ok () ↔ s.StepFits x := by
  cases x with
  | start card left =>
    unfold checkStep StepFits
    rw [Fault.seq_eq_ok, Setting.known_eq_ok, Setting.finite_eq_ok]
  | move left => exact Setting.finite_eq_ok
  | dropOn column => exact Setting.known_eq_ok
  | setDroppable column droppable => exact Setting.known_eq_ok
  | release decision =>
    unfold checkStep StepFits
    rw [Setting.demand_eq_ok, Bool.not_eq_true', ← Bool.not_eq_true, Bool.and_eq_true, decide_eq_true_iff,
      Option.isNone_iff_eq_none, limit_eq_none]

/-- Five kinds of steps, five rules. -/
theorem stepFits_iff :
    (∀ x ∈ s.steps, s.StepFits x) ↔
      (∀ card left, .start card left ∈ s.steps → card ∈ s.cardIds ∧ left.isFinite = true) ∧
      (∀ left, .move left ∈ s.steps → left.isFinite = true) ∧
      (∀ column, .dropOn column ∈ s.steps → column ∈ s.columnIds) ∧
      (∀ column droppable, .setDroppable column droppable ∈ s.steps → column ∈ s.columnIds) ∧
      (s.confirmationTimeout = some 0 → .release .never ∉ s.steps) := by
  constructor
  · intro h
    exact ⟨fun card left hx => h _ hx, fun left hx => h _ hx, fun column hx => h _ hx,
      fun column droppable hx => h _ hx, fun hzero hx => h _ hx ⟨rfl, hzero⟩⟩
  · rintro ⟨hstarts, hmoves, hdrops, hswitches, hanswers⟩ x hx
    cases x with
    | start card left => exact hstarts card left hx
    | move left => exact hmoves left hx
    | dropOn column => exact hdrops column hx
    | setDroppable column droppable => exact hswitches column droppable hx
    | release decision =>
      rintro ⟨rfl, hzero⟩
      exact hanswers hzero hx

/-- The check accepts what keeps the rules, and nothing else. -/
theorem check_eq_ok_iff : s.check = .ok () ↔ s.WellFormed := by
  have hsteps : (∀ x ∈ s.steps, s.checkStep x = .ok ()) ↔ ∀ x ∈ s.steps, s.StepFits x :=
    forall₂_congr fun x _ => checkStep_eq_ok
  rw [check_eq_ok, Setting.filled_eq_ok, checkViewport_eq_ok, checkTimeout_eq_ok, checkRefresh_eq_ok,
    checkColumns_eq_ok, Setting.distinct_eq_ok, Setting.distinct_eq_ok, hsteps, stepFits_iff]
  simp only [Setting.positive_eq_ok]
  constructor
  · rintro ⟨hname, ⟨hwidth, hcontent, hoffset, hleft⟩, htimeout, hrefresh,
      ⟨hcolumns, hcolumnIds, hcardIds, hwidths⟩, hstarts, hmoves, hdrops, hswitches, hanswers⟩
    exact ⟨hname, hwidth, hcontent, hoffset, hleft, htimeout, hrefresh, hcolumns, hcolumnIds, hcardIds, hwidths,
      hstarts, hmoves, hdrops, hswitches, hanswers⟩
  · intro h
    exact ⟨h.name, ⟨h.width, h.contentWidth, h.offset, h.left⟩, h.timeout, h.refresh,
      ⟨h.columns, h.columnIds, h.cardIds, h.cardWidths⟩, h.starts, h.moves, h.drops, h.switches, h.answers⟩

/-! ## What the check refuses -/

theorem offends_of_checkViewport (h : checkViewport s.viewport = .error fault) : s.Offends fault := by
  unfold checkViewport at h
  rw [Fault.seq_eq_error, Fault.seq_eq_error, Fault.seq_eq_error, Setting.positive_eq_error,
    Setting.nonNegative_eq_error, Setting.nonNegative_eq_error, Setting.finite_eq_error] at h
  obtain ⟨hwidth, rfl⟩ | ⟨_, ⟨hcontent, rfl⟩ | ⟨_, ⟨hoffset, rfl⟩ | ⟨_, hleft, rfl⟩⟩⟩ := h
  · exact .width hwidth
  · exact .contentWidth hcontent
  · exact .offset hoffset
  · exact .left hleft

theorem offends_of_checkTimeout (h : checkTimeout s.confirmationTimeout = .error fault) : s.Offends fault := by
  cases hlimit : s.confirmationTimeout with
  | none =>
    rw [hlimit] at h
    cases h
  | some ms =>
    rw [hlimit] at h
    obtain ⟨hout, rfl⟩ := Setting.within_eq_error.mp h
    -- Nothing is below zero, so it is too long.
    exact .timeout hlimit (hout.resolve_left (Nat.not_lt_zero ms))

theorem offends_of_checkRefresh (h : checkRefresh s.refresh = .error fault) : s.Offends fault := by
  cases hr : s.refresh with
  | none =>
    rw [hr] at h
    cases h
  | some r =>
    rw [hr] at h
    unfold checkRefresh at h
    by_cases hon : r.enabled = true
    · simp only [hon, if_true] at h
      obtain hmissing | ⟨ms, hms, hwithin⟩ := Fault.bind_eq_error.mp h
      · obtain ⟨hnone, rfl⟩ := Setting.required_eq_error.mp hmissing
        exact .noInterval hr hon hnone
      · obtain ⟨hout, rfl⟩ := Setting.within_eq_error.mp hwithin
        exact .interval hr hon (Setting.required_eq_ok.mp hms) hout
    · simp only [hon] at h
      cases h

theorem offends_of_checkColumns (h : s.checkColumns = .error fault) : s.Offends fault := by
  unfold checkColumns at h
  by_cases hempty : s.columns.isEmpty = true
  · rw [if_pos hempty] at h
    cases h
    exact .columns (List.isEmpty_iff.mp hempty)
  · rw [if_neg hempty] at h
    obtain hcolumns | ⟨_, h⟩ := Fault.seq_eq_error.mp h
    · exact .columnIds (Setting.distinct_eq_error hcolumns)
    obtain hcards | ⟨_, h⟩ := Fault.seq_eq_error.mp h
    · exact .cardIds (Setting.distinct_eq_error hcards)
    obtain ⟨c, hc, hcard⟩ := Fault.forM_eq_error h
    obtain ⟨hwidth, rfl⟩ := Setting.positive_eq_error.mp hcard
    exact .cardWidth hc hwidth

theorem offends_of_checkStep {x : ScenarioStep} (hx : x ∈ s.steps) (h : s.checkStep x = .error fault) :
    s.Offends fault := by
  cases x with
  | start card left =>
    obtain hknown | ⟨_, hfinite⟩ := Fault.seq_eq_error.mp h
    · obtain ⟨hcard, rfl⟩ := Setting.known_eq_error.mp hknown
      exact .startCard hx hcard
    · obtain ⟨hleft, rfl⟩ := Setting.finite_eq_error.mp hfinite
      exact .startLeft hx hleft
  | move left =>
    obtain ⟨hleft, rfl⟩ := Setting.finite_eq_error.mp h
    exact .move hx hleft
  | dropOn column =>
    obtain ⟨hcolumn, rfl⟩ := Setting.known_eq_error.mp h
    exact .drop hx hcolumn
  | setDroppable column droppable =>
    obtain ⟨hcolumn, rfl⟩ := Setting.known_eq_error.mp h
    exact .switch hx hcolumn
  | release decision =>
    obtain ⟨hrule, rfl⟩ := Setting.demand_eq_error.mp h
    rw [Bool.not_eq_false', Bool.and_eq_true, decide_eq_true_iff, Option.isNone_iff_eq_none,
      limit_eq_none] at hrule
    obtain ⟨rfl, hzero⟩ := hrule
    exact .answer hx hzero

theorem offends_of_check (h : s.check = .error fault) : s.Offends fault := by
  unfold check at h
  obtain hname | ⟨_, h⟩ := Fault.seq_eq_error.mp h
  · obtain ⟨hblank, rfl⟩ := Setting.filled_eq_error.mp hname
    exact .name hblank
  obtain hviewport | ⟨_, h⟩ := Fault.seq_eq_error.mp h
  · exact offends_of_checkViewport hviewport
  obtain htimeout | ⟨_, h⟩ := Fault.seq_eq_error.mp h
  · exact offends_of_checkTimeout htimeout
  obtain hrefresh | ⟨_, h⟩ := Fault.seq_eq_error.mp h
  · exact offends_of_checkRefresh hrefresh
  obtain hcolumns | ⟨_, hsteps⟩ := Fault.seq_eq_error.mp h
  · exact offends_of_checkColumns hcolumns
  obtain ⟨x, hx, hstep⟩ := Fault.forM_eq_error hsteps
  exact offends_of_checkStep hx hstep

/-! ## The whole check -/

/-- **The check accepts the scenarios that keep all rules and no others, and whatever it blames another one
    for is a rule that this one really breaks.** -/
theorem check_accepts_or_blames (s : Scenario) :
    (s.check = .ok () ↔ s.WellFormed) ∧
      ∀ fault, s.check = .error fault → s.Offends fault ∧ ¬ s.WellFormed := by
  refine ⟨check_eq_ok_iff, fun fault h => ?_⟩
  have hoffends : s.Offends fault := offends_of_check h
  exact ⟨hoffends, hoffends.not_wellFormed⟩

/-- A sprint with a long dialog that never waits in vain. -/
def tidySprint : Scenario where
  name := "sprint"
  description := none
  confirmationTimeout := some 3600000
  refresh := some ⟨true, some 600000⟩
  viewport := ⟨-8, 500, 0, 0⟩
  columns := [⟨"todo", true, true, [⟨"c1", true, 100, .null⟩]⟩, ⟨"done", true, false, [⟨"c2", false, 0.5, .null⟩]⟩]
  steps := [.start "c1" (-3), .move 40, .dropOn "done", .release .never, .setDroppable "todo" false]

/-- The same sprint with a card that stands in two columns and is too narrow in one of them. -/
def tangledSprint : Scenario :=
  { tidySprint with
    columns := [⟨"todo", true, true, [⟨"c1", true, 100, .null⟩]⟩, ⟨"done", true, false, [⟨"c1", false, 0, .null⟩]⟩]
    confirmationTimeout := some 0 }

/-- The first one passes. The other one breaks three rules, and the card in two columns is what it is refused
    for. -/
theorem check_accepts_or_blames_sprints :
    tidySprint.check = .ok () ∧ tidySprint.WellFormed ∧
      let fault := .invalidSetting "columns.cards.id" "c1" "Duplicate id"
      tangledSprint.check = .error fault ∧ tangledSprint.Offends fault ∧ ¬ tangledSprint.WellFormed := by
  have htidy : tidySprint.check = .ok () := by rfl
  have htangled : tangledSprint.check = .error (.invalidSetting "columns.cards.id" "c1" "Duplicate id") := by rfl
  exact ⟨htidy, (check_accepts_or_blames tidySprint).1.mp htidy, htangled,
    (check_accepts_or_blames tangledSprint).2 _ htangled⟩

end Kanban.Scenario
