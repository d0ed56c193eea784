import Kanban.Proofs.Replay.Parts

/-!
# `Proofs.Replay.Resumed` — a replay that is resumed where another one ended

When a replay has come to its end and no session is open, all that is left of it is where the cards are,
which columns are open, and how far the viewport has scrolled. Whoever writes that down as a scenario can
replay the other steps from there.

## Contents
- `Report.andThen`: one report after another.
- `Scenario.resumed`: what is left of a replay, as a scenario; `resumed_board`, `sameRules_resumed`: its board
  and its rules.
- `sketch_resumed`: both parts on paper.
- `Scenario.ComesTo`: what every replay of a scenario comes to; `comesTo_sketch`: it is on paper.
- `follows_of_report`: where a replay stands that has come to a report.
- `replay_resumed`: both parts of a replay.
-/

namespace Kanban

namespace Report

/-- One report after another: what was told, and what the later one ends with. -/
def andThen (r r' : Report) : Report :=
  { r' with
    board := r.board
    steps := r.steps ++ r'.steps
    starts := r.starts ++ r'.starts
    requests := r.requests ++ r'.requests }

/-- Later steps are written with the indices that come after those of the earlier ones. -/
theorem stepsToPayload_append (index : Nat) (xs ys : List (ScenarioStep × StepResult)) :
    stepsToPayload index (xs ++ ys) = stepsToPayload index xs ++ stepsToPayload (index + xs.length) ys := by
  induction xs generalizing index with
  | nil => rfl
  | cons x rest ih =>
    have hindex : index + 1 + rest.length = index + (x :: rest).length := by
      rw [List.length_cons]
      omega
    rw [List.cons_append, stepsToPayload, ih, hindex]
    rfl

end Report

namespace Scenario

variable {s : Scenario} {columns : List Container} {b : Board}

/-- The plan of a card. -/
def plan? (s : Scenario) (card : String) : Option CardPlan := s.cards.find? (·.id = card)

/-- A column with the cards that a container lists, and open if the container is. -/
def refilled (s : Scenario) (column : ColumnPlan) (left : Container) : ColumnPlan :=
  { column with droppable := left.droppable, cards := left.cards.filterMap s.plan? }

/-- What a replay leaves, as a scenario with other steps: the columns hold the cards that they list in the
    end, each with its own plan, and the viewport is where it has scrolled to. -/
def resumed (s : Scenario) (left : Report) (steps : List ScenarioStep) : Scenario :=
  { s with
    viewport := { s.viewport with offset := left.offset }
    columns := List.zipWith s.refilled s.columns left.columns
    steps }

/-! ## Plans -/

theorem mem_of_plan? {x : String} {c : CardPlan} (h : s.plan? x = some c) : c ∈ s.cards ∧ c.id = x := by
  have hid := List.find?_some h
  exact ⟨List.mem_of_find?_eq_some h, by simpa using hid⟩

/-- Every card has a plan. -/
theorem exists_plan {c : CardPlan} (hc : c ∈ s.cards) : ∃ c', s.plan? c.id = some c' := by
  cases hf : s.plan? c.id with
  | some c' => exact ⟨c', rfl⟩
  | none =>
    have hnone := List.find?_eq_none.mp hf c hc
    simp at hnone

theorem plan?_eq_some (hn : s.cardIds.Nodup) {x : String} {c : CardPlan} :
    s.plan? x = some c ↔ c ∈ s.cards ∧ c.id = x := by
  constructor
  · exact mem_of_plan?
  · rintro ⟨hc, rfl⟩
    obtain ⟨c', hf⟩ := exists_plan hc
    obtain ⟨hc', hid⟩ := mem_of_plan? hf
    rw [hf, List.inj_on_of_nodup_map hn hc' hc hid]

theorem draggable?_iff (hn : s.cardIds.Nodup) {x : String} {c : CardPlan} :
    s.draggable? x = some c ↔ c ∈ s.cards ∧ c.id = x ∧ c.draggable = true := by
  constructor
  · exact draggable?_eq_some
  · rintro ⟨hc, rfl, hdraggable⟩
    cases hd : s.draggable? c.id with
    | none =>
      rw [draggable?_eq_none.mp hd c hc rfl] at hdraggable
      cases hdraggable
    | some c' =>
      obtain ⟨hc', hid, _⟩ := draggable?_eq_some hd
      rw [List.inj_on_of_nodup_map hn hc' hc hid]

/-- Cards of the scenario have plans, each under its own identifier. -/
theorem ids_filterMap_plan? {l : List String} (hl : ∀ x ∈ l, x ∈ s.cardIds) :
    (l.filterMap s.plan?).map (·.id) = l := by
  induction l with
  | nil => rfl
  | cons x rest ih =>
    obtain ⟨c, hc, rfl⟩ := List.mem_map.mp (hl x List.mem_cons_self)
    obtain ⟨c', hf⟩ := exists_plan hc
    have hrest := ih fun y hy => hl y (List.mem_cons_of_mem c.id hy)
    rw [List.filterMap_cons_some hf, List.map_cons, (mem_of_plan? hf).2, hrest]

/-! ## Columns that are filled again -/

section refilled

variable {plans : List ColumnPlan} (hids : columns.map (·.id) = plans.map (·.id))
include hids

/-- They are the containers. -/
theorem containers_refilled (hl : ∀ c ∈ columns, ∀ x ∈ c.cards, x ∈ s.cardIds) :
    (List.zipWith s.refilled plans columns).map ColumnPlan.container = columns := by
  induction plans generalizing columns with
  | nil =>
    cases columns with
    | nil => rfl
    | cons k rest => cases hids
  | cons plan plans ih =>
    cases columns with
    | nil => cases hids
    | cons k rest =>
      rw [List.map_cons, List.map_cons, List.cons.injEq] at hids
      have hrest := ih hids.2 fun c hc => hl c (List.mem_cons_of_mem k hc)
      have hcards := ids_filterMap_plan? (hl k List.mem_cons_self)
      rw [List.zipWith_cons_cons, List.map_cons, hrest]
      show (⟨plan.id, (k.cards.filterMap s.plan?).map (·.id), k.droppable⟩ : Container) :: rest = k :: rest
      rw [hcards, ← hids.1]

/-- They hold the plans of the cards that are listed. -/
theorem cards_refilled : (List.zipWith s.refilled plans columns).flatMap (·.cards) =
    (columns.flatMap (·.cards)).filterMap s.plan? := by
  induction plans generalizing columns with
  | nil =>
    cases columns with
    | nil => rfl
    | cons k rest => cases hids
  | cons plan plans ih =>
    cases columns with
    | nil => cases hids
    | cons k rest =>
      rw [List.map_cons, List.map_cons, List.cons.injEq] at hids
      rw [List.zipWith_cons_cons, List.flatMap_cons, List.flatMap_cons, List.filterMap_append, ih hids.2]
      rfl

/-- They accept drops as before. -/
theorem accepts_refilled (column : String) :
    ((List.zipWith s.refilled plans columns).any fun c => c.id = column && c.acceptsDrops) =
      plans.any fun c => c.id = column && c.acceptsDrops := by
  induction plans generalizing columns with
  | nil =>
    cases columns with
    | nil => rfl
    | cons k rest => cases hids
  | cons plan plans ih =>
    cases columns with
    | nil => cases hids
    | cons k rest =>
      rw [List.map_cons, List.map_cons, List.cons.injEq] at hids
      rw [List.zipWith_cons_cons, List.any_cons, List.any_cons, ih hids.2]
      rfl

end refilled
end Scenario

/-! ## What is listed on paper -/

namespace Shows

variable {s : Scenario} {columns : List Container} {b : Board}

/-- No card is listed twice. -/
theorem listed_nodup (h : Shows s columns b) : (columns.flatMap (·.cards)).Nodup := by
  rw [← h.containers, List.nodup_flatMap]
  refine ⟨h.consistent.nodup, ?_⟩
  -- A card that two containers list names both of them, so the two are one.
  refine (List.pairwise_map.mp h.consistent.ids).imp_of_mem fun {k k'} hk hk' hne => ?_
  intro x hx hx'
  obtain ⟨c, hc, _⟩ := Board.owns_iff.mp ((h.consistent.mem_iff k hk x).mp hx)
  have hid := h.consistent.container_of_mem hc hk hx
  have hid' := h.consistent.container_of_mem hc hk' hx'
  exact hne (hid.trans hid'.symm)

/-- Every card of the scenario is listed. -/
theorem listed_of_mem (h : Shows s columns b) {c : CardPlan} (hc : c ∈ s.cards) :
    c.id ∈ columns.flatMap (·.cards) := by
  obtain ⟨card, hcard, _, _⟩ := h.cards c hc
  obtain ⟨k, hk, _, hmem⟩ := h.consistent.exists_container hcard
  exact List.mem_flatMap.mpr ⟨k, h.containers ▸ hk, hmem⟩

end Shows

/-! ## A scenario that is resumed -/

namespace Scenario

variable {s : Scenario} {b : Board} {left : Report} {steps : List ScenarioStep}

section resumed

variable (h : Shows s left.columns b) (hl : ∀ c ∈ left.columns, ∀ x ∈ c.cards, x ∈ s.cardIds)
include h hl

theorem cardIds_resumed : (s.resumed left steps).cardIds = left.columns.flatMap (·.cards) := by
  show ((List.zipWith s.refilled s.columns left.columns).flatMap (·.cards)).map (·.id) = _
  rw [cards_refilled h.ids, ids_filterMap_plan?]
  intro x hx
  obtain ⟨c, hc, hx⟩ := List.mem_flatMap.mp hx
  exact hl c hc x hx

theorem columnIds_resumed : (s.resumed left steps).columnIds = s.columnIds := by
  have hcontainers := containers_refilled h.ids hl
  rw [← h.ids, ← hcontainers, List.map_map]
  rfl

/-- **It has a board.** -/
theorem resumed_board : ∃ b', (s.resumed left steps).board = .ok b' := by
  refine ⟨_, board_eq_ok.mpr ⟨?_, ?_, rfl⟩⟩
  · rw [columnIds_resumed h hl]
    exact h.columnIds_nodup
  · rw [cardIds_resumed h hl]
    exact h.listed_nodup

omit hl in
/-- It has the same cards, perhaps in another order. -/
theorem mem_cards_resumed {c : CardPlan} : c ∈ (s.resumed left steps).cards ↔ c ∈ s.cards := by
  show c ∈ (List.zipWith s.refilled s.columns left.columns).flatMap (·.cards) ↔ _
  rw [cards_refilled h.ids, List.mem_filterMap]
  constructor
  · rintro ⟨x, _, hx⟩
    exact ((plan?_eq_some h.distinct).mp hx).1
  · intro hc
    exact ⟨c.id, h.listed_of_mem hc, (plan?_eq_some h.distinct).mpr ⟨hc, rfl⟩⟩

/-- **It has the same rules.** -/
theorem sameRules_resumed : s.SameRules (s.resumed left steps) := by
  have hn : (s.resumed left steps).cardIds.Nodup := by
    rw [cardIds_resumed h hl]
    exact h.listed_nodup
  refine ⟨accepts_refilled h.ids, fun card => ?_, ⟨left.offset, rfl⟩, rfl⟩
  apply Option.ext
  intro c
  rw [draggable?_iff hn, draggable?_iff h.distinct, mem_cards_resumed h]

/-- It begins on paper where the other one ended. -/
theorem begin_resumed : Sketch.begin (s.resumed left steps) = ⟨left.columns, left.offset, none, [], []⟩ := by
  have hcontainers : (Sketch.begin (s.resumed left steps)).columns = left.columns :=
    containers_refilled h.ids hl
  show (⟨(Sketch.begin (s.resumed left steps)).columns, left.offset, none, [], []⟩ : Sketch) = _
  rw [hcontainers]

end resumed

/-- Other steps are no other rules. -/
theorem sameRules_steps (s : Scenario) (steps : List ScenarioStep) : s.SameRules { s with steps } :=
  ⟨fun _ => rfl, fun _ => rfl, ⟨s.viewport.offset, rfl⟩, rfl⟩

/-- **Both parts on paper.** -/
theorem sketch_resumed {s₁ s₂ : List ScenarioStep} {k : Sketch} {results : List StepResult} (n : Nat)
    (hk : (Sketch.begin s).play s s₁ = some (k, results)) (hg : k.grip = none)
    (h : Shows s k.columns b) :
    let first := k.report { s with steps := s₁ } n results
    sketch { s with steps := s₁ ++ s₂ } n = ((s.resumed first s₂).sketch n).map first.andThen := by
  intro first
  have hl : ∀ c ∈ k.columns, ∀ x ∈ c.cards, x ∈ s.cardIds :=
    (Sketch.planned_play (Sketch.planned_begin s) hk).listed
  have hrules : s.SameRules (s.resumed first s₂) := sameRules_resumed h hl
  have hempty : Sketch.begin (s.resumed first s₂) = ⟨k.columns, k.offset, none, [], []⟩ := begin_resumed h hl
  have hbegin : k = (Sketch.begin (s.resumed first s₂)).recalling k.starts k.requests := by
    rw [hempty]
    show k = ⟨k.columns, k.offset, none, k.starts ++ [], k.requests ++ []⟩
    rw [List.append_nil, List.append_nil, ← hg]
  -- The later steps on the paper as it is, and on a new one.
  have hlater : k.play s s₂ = ((Sketch.begin (s.resumed first s₂)).play (s.resumed first s₂) s₂).map
      (Prod.map (·.recalling k.starts k.requests) id) :=
    calc k.play s s₂
      _ = k.play (s.resumed first s₂) s₂ := (Sketch.play_congr hrules k s₂).symm
      _ = ((Sketch.begin (s.resumed first s₂)).recalling k.starts k.requests).play (s.resumed first s₂) s₂ :=
        congrArg (Sketch.play (s.resumed first s₂) · s₂) hbegin
      _ = _ := Sketch.play_recalling _ s₂
  have hlength : s₁.length = results.length := (Sketch.play_length hk).symm
  unfold sketch
  rw [Sketch.play_congr (s.sameRules_steps (s₁ ++ s₂))]
  show Option.map _ ((Sketch.begin s).play s (s₁ ++ s₂)) =
    Option.map _ (Option.map _ ((Sketch.begin (s.resumed first s₂)).play (s.resumed first s₂) s₂))
  rw [Sketch.play_append, hk, Option.bind_some]
  dsimp only
  rw [hlater, Option.map_map, Option.map_map, Option.map_map]
  congr 1
  funext x
  obtain ⟨k', later⟩ := x
  show Report.mk s.name ((s₁ ++ s₂).zip (results ++ later)) _ _ _ _ _ = Report.mk s.name _ _ _ _ _ _
  rw [List.zip_append hlength]
  rfl

/-! ## The whole replay -/

/-- **What every replay of a scenario comes to,** with a number of interactions in progress elsewhere: the
    same report, played in one go and beside the refresher, whoever goes on first; or to no end at all. -/
def ComesTo (s : Scenario) (b : Board) (n : Nat) : Option Report → Prop
  | some report => (∃ elapsed log, s.replay n = .ok (.finished report elapsed log)) ∧
      ∀ choose, ∃ k, ∀ m, ((Runner.begin s b n).after choose m).report s =
        if k ≤ m then some (.ok report) else none
  | none => s.replay n = .ok .waitsForever ∧
      ∀ choose m, ((Runner.begin s b n).after choose m).ended = false ∧
        ((Runner.begin s b n).after choose m).crashed = false

/-- What it comes to is on paper. -/
theorem comesTo_sketch (hb : s.board = .ok b) (hi : s.refreshInterval ≠ some 0) (n : Nat) :
    s.ComesTo b n (s.sketch n) := by
  have hplay := play_eq_sketch hb n
  have hbegin : Runner.Sound ((Replay.begin s b n).play 0 s.steps) (Runner.begin s b n) :=
    Runner.sound_begin hi
  cases hsketch : s.sketch n with
  | some report =>
    rw [hsketch] at hplay
    obtain ⟨r, results, hrun, hreport⟩ := hplay
    refine ⟨⟨r.elapsed, _, replay_of_play hb hi hrun hreport⟩, fun choose => ?_⟩
    rw [hrun] at hbegin
    rw [← hreport]
    exact Runner.report_after hbegin s choose
  | none =>
    rw [hsketch] at hplay
    refine ⟨replay_of_waiting hb hi hplay, fun choose m => ?_⟩
    have hsound := Runner.sound_after hbegin choose m
    refine ⟨Bool.eq_false_iff.mpr fun he => ?_, hsound.crashed⟩
    have hover := (Runner.outcome_of_ended hsound he).1
    rw [hplay] at hover
    cases hover

/-- A run that has come to a report is followed by its sketch to the end. -/
theorem follows_of_report {n k : Nat} {choose : Nat → Choice} {report : Report} (hb : s.board = .ok b)
    (h : ((Runner.begin s b n).after choose k).report s = some (.ok report)) :
    ∃ q results, (Sketch.begin s).play s s.steps = some (q, results) ∧
      Follows s n q ((Runner.begin s b n).after choose k).player.replay ∧
      report = q.report s n results := by
  have hsound : Runner.Sound ((Replay.begin s b n).play 0 s.steps) ((Runner.begin s b n).after choose k) :=
    Runner.sound_after (Runner.sound_begin (Runner.interval_of_report h)) choose k
  obtain ⟨hended, _, hreport⟩ := Runner.report_eq_some h
  have hplayed := (Runner.outcome_of_ended hsound hended).1
  rcases ((Follows.begin hb n).play 0 s.steps).cases with ⟨_, hr⟩ | ⟨q, r, results, hq, hr, hfollows⟩
  · rw [hr] at hplayed
    cases hplayed
  · rw [hr] at hplayed
    obtain ⟨hr, hresults⟩ := Prod.mk.inj (Option.some.inj hplayed)
    rw [← hr, ← hresults, hfollows.report] at hreport
    exact ⟨q, results, hq, hr ▸ hfollows, (Except.ok.inj hreport).symm⟩

end Scenario

/-- **Sessions leave nothing behind.** If a replay has come to a report and no session is open, the scenario
    can be resumed from the report with any other steps. Replaying all steps on the scenario then comes to the
    report on the first of them followed by the report on the others, or to no end if the others come to
    none. -/
theorem replay_resumed (s : Scenario) (b : Board) (s₁ s₂ : List ScenarioStep) (n k : Nat)
    (choose : Nat → Choice) (report₁ : Report) (hb : s.board = .ok b)
    (hreport : ((Runner.begin { s with steps := s₁ } b n).after choose k).report { s with steps := s₁ } =
      some (.ok report₁))
    (hclosed : ((Runner.begin { s with steps := s₁ } b n).after choose k).player.replay.controller.session =
      none) :
    let rest := s.resumed report₁ s₂
    ∃ b' outcome, rest.board = .ok b' ∧ rest.ComesTo b' n outcome ∧
      Scenario.ComesTo { s with steps := s₁ ++ s₂ } b n (outcome.map report₁.andThen) ∧
      ∀ report₂ ∈ outcome, Report.stepsToPayload 0 (report₁.andThen report₂).steps =
        Report.stepsToPayload 0 report₁.steps ++ Report.stepsToPayload s₁.length report₂.steps := by
  intro rest
  have hi : s.refreshInterval ≠ some 0 := Runner.interval_of_report (s := { s with steps := s₁ }) hreport
  obtain ⟨q, results, hq, hfollows, rfl⟩ :=
    Scenario.follows_of_report (s := { s with steps := s₁ }) hb hreport
  -- On paper nobody is dragged, and the board is the one of the paper.
  have hplay : (Sketch.begin s).play s s₁ = some (q, results) := by
    rw [← Sketch.play_congr (s.sameRules_steps s₁)]
    exact hq
  have hg : q.grip = none := by
    cases hgrip : q.grip with
    | none => rfl
    | some g =>
      obtain ⟨session, hsession, _⟩ := hfollows.session.of_some hgrip
      rw [hclosed] at hsession
      cases hsession
  have hshows : Shows s q.columns _ := { hfollows.board with }
  have hl : ∀ c ∈ q.columns, ∀ x ∈ c.cards, x ∈ s.cardIds :=
    (Sketch.planned_play (Sketch.planned_begin s) hplay).listed
  obtain ⟨b', hb'⟩ : ∃ b', rest.board = .ok b' := Scenario.resumed_board hshows hl
  have hrest : rest.refreshInterval ≠ some 0 := hi
  have hwhole := Scenario.comesTo_sketch (s := { s with steps := s₁ ++ s₂ }) hb hi n
  have hboth : Scenario.sketch { s with steps := s₁ ++ s₂ } n = (rest.sketch n).map (Report.andThen _) :=
    Scenario.sketch_resumed n hplay hg hshows
  rw [hboth] at hwhole
  refine ⟨b', rest.sketch n, hb', Scenario.comesTo_sketch hb' hrest n, hwhole, fun report₂ _ => ?_⟩
  have hlength : (s₁.zip results).length = s₁.length := by
    rw [List.length_zip, Sketch.play_length hplay, Nat.min_self]
  show Report.stepsToPayload 0 (s₁.zip results ++ report₂.steps) = _
  rw [Report.stepsToPayload_append, hlength, Nat.zero_add]
  rfl

/-- A dialog is left open at the edge of the viewport, a card is carried out of a column that is closed
    behind it, and then it does not get back. -/
def carriedOver : Scenario where
  name := "triage"
  description := none
  confirmationTimeout := some 20
  refresh := some ⟨true, some 10⟩
  viewport := ⟨0, 500, 900, 0⟩
  columns := [⟨"todo", true, true, [⟨"c1", true, 100, .null⟩, ⟨"c2", true, 120, .null⟩]⟩,
    ⟨"done", true, true, []⟩]
  steps := [.start "c1" 0, .move 480, .dropOn "done", .release .never, .start "c2" 0, .dropOn "done",
    .release .accept, .setDroppable "todo" false, .start "c2" 0, .dropOn "todo", .release .accept]

/-- Its replay can be resumed after eight steps, and both parts come to an end. -/
theorem replay_resumed_carriedOver :
    let s₁ := carriedOver.steps.take 8
    let s₂ := carriedOver.steps.drop 8
    let b := Scenario.laidOut carriedOver.columns
    let run := (Runner.begin { carriedOver with steps := s₁ } b 1).after (fun i => ⟨i % 2 = 0, true⟩) 20
    carriedOver.board = .ok b ∧ run.player.replay.controller.session = none ∧
      ∃ report₁ report₂ b', run.report { carriedOver with steps := s₁ } = some (.ok report₁) ∧
        (carriedOver.resumed report₁ s₂).board = .ok b' ∧
        (carriedOver.resumed report₁ s₂).ComesTo b' 1 (some report₂) ∧
        Scenario.ComesTo { carriedOver with steps := s₁ ++ s₂ } b 1 (some (report₁.andThen report₂)) ∧
        Report.stepsToPayload 0 (report₁.andThen report₂).steps =
          Report.stepsToPayload 0 report₁.steps ++ Report.stepsToPayload s₁.length report₂.steps := by
  intro s₁ s₂ b run
  have hb : carriedOver.board = .ok b := by rfl
  have hclosed : run.player.replay.controller.session = none :=
    Option.isNone_iff_eq_none.mp (by decide +kernel)
  have hover : ∃ report₁, run.report { carriedOver with steps := s₁ } = some (.ok report₁) := by
    have hok : ((run.report { carriedOver with steps := s₁ }).any (·.isOk)) = true := by decide +kernel
    obtain ⟨x, hx, hisOk⟩ := (Option.any_eq_true ..).mp hok
    cases x with
    | ok report₁ => exact ⟨report₁, hx⟩
    | error e => cases hisOk
  have hends : ((Runner.begin { carriedOver with steps := s₁ ++ s₂ } b 1).after
      (fun i => ⟨i % 2 = 0, true⟩) 30).ended = true := by decide +kernel
  obtain ⟨report₁, hreport⟩ := hover
  obtain ⟨b', outcome, hb', hrest, hwhole, hsteps⟩ := replay_resumed carriedOver b s₁ s₂ 1 20
    (fun i => ⟨i % 2 = 0, true⟩) report₁ hb hreport hclosed
  cases outcome with
  | some report₂ => exact ⟨hb, hclosed, report₁, report₂, b', hreport, hb', hrest, hwhole, hsteps _ rfl⟩
  | none =>
    -- The whole replay is over, so it is not one that comes to no end.
    have hnever := (hwhole.2 (fun i => ⟨i % 2 = 0, true⟩) 30).1
    rw [hnever] at hends
    cases hends

end Kanban
