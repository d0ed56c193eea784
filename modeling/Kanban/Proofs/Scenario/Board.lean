import Kanban.Proofs.Board.Consistent
import Kanban.Proofs.Dict
import Kanban.Proofs.Fault
import Kanban.Scenario.Basic

/-!
# `Proofs.Scenario.Board` — the board that a scenario starts with

A scenario has a board exactly if its column identifiers differ and its card identifiers differ over all
columns. The board then shows the columns as they are written down.

## Contents
- `Scenario.laidOut`: the columns as they are written down.
- `addCards_eq_ok`, `addColumns_eq_ok`, `board_eq_ok`: when a board is built, and which one.
- `consistent_board`, `card?_board`, `card?_board_of_not_mem`: what is on it.
-/

namespace Kanban

/-- A column of the plan as a container. -/
def ColumnPlan.container (c : ColumnPlan) : Container := ⟨c.id, c.cards.map (·.id), c.droppable⟩

/-- A card of the plan in a column. -/
def CardPlan.card (c : CardPlan) (column : String) : Card := ⟨c.id, c.issue, column, c.width, false⟩

namespace Scenario

variable {b b' : Board}

/-- The cards of a column, each with its column. -/
def placements (c : ColumnPlan) : List (String × CardPlan) := c.cards.map fun card => (c.id, card)

/-- Put a card down. -/
def place (d : Dict Card) (p : String × CardPlan) : Dict Card := d.insert p.2.id (p.2.card p.1)

/-- The columns of a plan as they are written down. -/
def laidOut (columns : List ColumnPlan) : Board :=
  ⟨columns.map ColumnPlan.container, (columns.flatMap placements).foldl place Dict.empty⟩

/-! ## The cards of one column -/

/-- Adding a card to the last of all columns. -/
theorem addCard_eq_ok {column : String} {before : List Container} {l : List String} {droppable : Bool}
    {cards : Dict Card} {c : CardPlan} (hcolumn : column ∉ before.map (·.id)) :
    addCard column ⟨before ++ [⟨column, l, droppable⟩], cards⟩ c = .ok b' ↔
      cards.get? c.id = none ∧
        b' = ⟨before ++ [⟨column, l ++ [c.id], droppable⟩], place cards (column, c)⟩ := by
  have hsome : (Board.container? ⟨before ++ [⟨column, l, droppable⟩], cards⟩ column).isSome = true := by
    rw [Board.container?_isSome]
    simp
  unfold addCard
  rw [Board.addCard_eq_ok]
  dsimp only
  rw [Board.updateFirst_append hcolumn, Board.updateFirst, if_pos rfl]
  constructor
  · rintro ⟨hfresh, _, rfl⟩
    exact ⟨hfresh, rfl⟩
  · rintro ⟨hfresh, rfl⟩
    exact ⟨hfresh, hsome, rfl⟩

theorem get?_place (d : Dict Card) (p : String × CardPlan) (x : String) :
    (place d p).get? x = if x = p.2.id then some (p.2.card p.1) else d.get? x := Dict.get?_insert ..

/-- **Adding all cards to the last of all columns** succeeds if their identifiers are new and differ. -/
theorem addCards_eq_ok {column : String} {before : List Container} {l : List String} {droppable : Bool}
    {cards : Dict Card} {plans : List CardPlan} (hcolumn : column ∉ before.map (·.id)) :
    plans.foldlM (addCard column) ⟨before ++ [⟨column, l, droppable⟩], cards⟩ = .ok b' ↔
      ((plans.map (·.id)).Nodup ∧ ∀ c ∈ plans, cards.get? c.id = none) ∧
        b' = ⟨before ++ [⟨column, l ++ plans.map (·.id), droppable⟩],
          (plans.map fun c => (column, c)).foldl place cards⟩ := by
  induction plans generalizing l cards with
  | nil => simp [pure, Except.pure, eq_comm]
  | cons c rest ih =>
    have hfirst : (c :: rest).foldlM (addCard column) ⟨before ++ [⟨column, l, droppable⟩], cards⟩ = .ok b' ↔
        cards.get? c.id = none ∧ rest.foldlM (addCard column)
          ⟨before ++ [⟨column, l ++ [c.id], droppable⟩], place cards (column, c)⟩ = .ok b' := by
      rw [List.foldlM_cons, Fault.bind_eq_ok]
      constructor
      · rintro ⟨b, hb, hrest⟩
        obtain ⟨hfresh, rfl⟩ := (addCard_eq_ok hcolumn).mp hb
        exact ⟨hfresh, hrest⟩
      · rintro ⟨hfresh, hrest⟩
        exact ⟨_, (addCard_eq_ok hcolumn).mpr ⟨hfresh, rfl⟩, hrest⟩
    -- A later card is new to what is there now exactly if it is new to what was there and is not this one.
    have hlater : ∀ c' : CardPlan, (place cards (column, c)).get? c'.id = none ↔
        c'.id ≠ c.id ∧ cards.get? c'.id = none := by
      intro c'
      rw [get?_place]
      by_cases h : c'.id = c.id
      · simp [h]
      · simp [h]
    rw [hfirst, ih]
    simp only [hlater, List.map_cons, List.nodup_cons, List.mem_map, not_exists, not_and, List.foldl_cons,
      List.append_assoc, List.cons_append, List.nil_append, List.mem_cons, forall_eq_or_imp]
    constructor
    · rintro ⟨hfresh, ⟨hnodup, hrest⟩, rfl⟩
      exact ⟨⟨⟨fun c' hc' => (hrest c' hc').1, hnodup⟩, hfresh, fun c' hc' => (hrest c' hc').2⟩, rfl⟩
    · rintro ⟨⟨⟨hdiffer, hnodup⟩, hfresh, hrest⟩, rfl⟩
      exact ⟨hfresh, ⟨hnodup, fun c' hc' => ⟨hdiffer c' hc', hrest c' hc'⟩⟩, rfl⟩

/-! ## All columns -/

theorem addColumn_eq_ok {c : ColumnPlan} :
    addColumn b c = .ok b' ↔
      b.container? c.id = none ∧ ((c.cards.map (·.id)).Nodup ∧ ∀ card ∈ c.cards, b.card? card.id = none) ∧
        b' = ⟨b.containers ++ [c.container], (placements c).foldl place b.cards⟩ := by
  unfold addColumn
  rw [Fault.bind_eq_ok]
  constructor
  · rintro ⟨b₁, hb₁, hcards⟩
    obtain ⟨hfresh, rfl⟩ := Board.addContainer_eq_ok.mp hb₁
    have hid : c.id ∉ b.containers.map (·.id) := by
      rw [← Board.container?_isSome, hfresh]
      simp
    obtain ⟨hnew, rfl⟩ := (addCards_eq_ok hid).mp hcards
    exact ⟨hfresh, hnew, rfl⟩
  · rintro ⟨hfresh, hnew, rfl⟩
    have hid : c.id ∉ b.containers.map (·.id) := by
      rw [← Board.container?_isSome, hfresh]
      simp
    exact ⟨_, Board.addContainer_eq_ok.mpr ⟨hfresh, rfl⟩, (addCards_eq_ok hid).mpr ⟨hnew, rfl⟩⟩

/-- Where no card has been put down there is none. -/
theorem get?_places_eq_none {placements : List (String × CardPlan)} {d : Dict Card} {x : String} :
    (placements.foldl place d).get? x = none ↔
      d.get? x = none ∧ ∀ p ∈ placements, x ≠ p.2.id := by
  induction placements generalizing d with
  | nil => simp
  | cons p rest ih =>
    rw [List.foldl_cons, ih, get?_place]
    by_cases h : x = p.2.id
    · simp [h]
    · simp [h]

/-- **Adding all columns** succeeds if all identifiers are new and differ. -/
theorem addColumns_eq_ok {columns : List ColumnPlan} :
    columns.foldlM addColumn b = .ok b' ↔
      ((columns.map (·.id)).Nodup ∧ ∀ c ∈ columns, b.container? c.id = none) ∧
        (((columns.flatMap (·.cards)).map (·.id)).Nodup ∧
          ∀ card ∈ columns.flatMap (·.cards), b.card? card.id = none) ∧
        b' = ⟨b.containers ++ columns.map ColumnPlan.container,
          (columns.flatMap placements).foldl place b.cards⟩ := by
  induction columns generalizing b with
  | nil => simp [pure, Except.pure, eq_comm]
  | cons c rest ih =>
    have hfirst : (c :: rest).foldlM addColumn b = .ok b' ↔
        (b.container? c.id = none ∧
          ((c.cards.map (·.id)).Nodup ∧ ∀ card ∈ c.cards, b.card? card.id = none)) ∧
        rest.foldlM addColumn ⟨b.containers ++ [c.container], (placements c).foldl place b.cards⟩ =
          .ok b' := by
      rw [List.foldlM_cons, Fault.bind_eq_ok]
      constructor
      · rintro ⟨b₁, hb₁, hrest⟩
        obtain ⟨hfresh, hnew, rfl⟩ := addColumn_eq_ok.mp hb₁
        exact ⟨⟨hfresh, hnew⟩, hrest⟩
      · rintro ⟨⟨hfresh, hnew⟩, hrest⟩
        exact ⟨_, addColumn_eq_ok.mpr ⟨hfresh, hnew, rfl⟩, hrest⟩
    -- As with cards: what is new after this column is new before it and not in it.
    have hcontainer : ∀ id : String,
        Board.container? ⟨b.containers ++ [c.container], (placements c).foldl place b.cards⟩ id = none ↔
          b.container? id = none ∧ id ≠ c.id := by
      intro id
      simp only [Board.container?_eq_none, List.mem_append, List.mem_singleton, or_imp, forall_and,
        forall_eq]
      exact and_congr_right fun _ => ne_comm
    have hcard : ∀ id : String,
        Board.card? ⟨b.containers ++ [c.container], (placements c).foldl place b.cards⟩ id = none ↔
          b.card? id = none ∧ ∀ card ∈ c.cards, id ≠ card.id := by
      intro id
      show ((placements c).foldl place b.cards).get? id = none ↔ _
      rw [get?_places_eq_none]
      simp [placements, Board.card?]
    rw [hfirst, ih]
    simp only [hcontainer, hcard, List.map_cons, List.nodup_cons, List.flatMap_cons, List.map_append,
      List.nodup_append, List.foldl_append, List.append_assoc, List.cons_append, List.nil_append,
      List.mem_cons, List.mem_append, or_imp, forall_and, List.mem_map, forall_exists_index, and_imp,
      forall_apply_eq_imp_iff₂, not_exists, not_and]
    constructor
    · rintro ⟨⟨hid, hnodup, hnew⟩, ⟨hids, hrest, hdiffer⟩, ⟨hcards, hrestNew, hapart⟩, rfl⟩
      exact ⟨⟨⟨hdiffer, hids⟩, fun x hx => hx ▸ hid, hrest⟩,
        ⟨⟨hnodup, hcards, fun x hx y hy heq => hapart y hy x hx heq.symm⟩, hnew, hrestNew⟩, rfl⟩
    · rintro ⟨⟨⟨hdiffer, hids⟩, hid, hrest⟩, ⟨⟨hnodup, hcards, hapart⟩, hnew, hrestNew⟩, rfl⟩
      exact ⟨⟨hid c rfl, hnodup, hnew⟩, ⟨hids, hrest, hdiffer⟩,
        ⟨hcards, hrestNew, fun x hx y hy heq => hapart y hy x hx heq.symm⟩, rfl⟩

/-! ## The board of a scenario -/

/-- **A scenario has a board** exactly if all identifiers differ; it shows the columns as they are written
    down. -/
theorem board_eq_ok {s : Scenario} :
    s.board = .ok b ↔ s.columnIds.Nodup ∧ s.cardIds.Nodup ∧ b = laidOut s.columns := by
  unfold board
  rw [addColumns_eq_ok]
  constructor
  · rintro ⟨⟨hids, _⟩, ⟨hcards, _⟩, rfl⟩
    exact ⟨hids, hcards, rfl⟩
  · rintro ⟨hids, hcards, rfl⟩
    exact ⟨⟨hids, fun _ _ => rfl⟩, ⟨hcards, fun _ _ => rfl⟩, rfl⟩

theorem consistent_addColumn {c : ColumnPlan} (h : addColumn b c = .ok b') (hb : b.Consistent) :
    b'.Consistent := by
  unfold addColumn at h
  obtain ⟨b₁, hb₁, hcards⟩ := Fault.bind_eq_ok.mp h
  exact Fault.foldlM_keeps (fun _ _ _ hcard hb => hb.addCard hcard) hcards (hb.addContainer hb₁)

/-- Both records of ownership agree at the start. -/
theorem consistent_board {s : Scenario} (h : s.board = .ok b) : b.Consistent :=
  Fault.foldlM_keeps (fun _ _ _ => consistent_addColumn) h Board.Consistent.empty

theorem map_placements (columns : List ColumnPlan) :
    (columns.flatMap placements).map (·.2) = columns.flatMap (·.cards) := by
  rw [List.map_flatMap]
  congr 1
  funext c
  simp [placements, Function.comp_def]

/-- **Every card of the plan** is on the board, in its column. -/
theorem card?_board {s : Scenario} (h : s.board = .ok b) {column : ColumnPlan} {c : CardPlan}
    (hcolumn : column ∈ s.columns) (hc : c ∈ column.cards) : b.card? c.id = some (c.card column.id) := by
  obtain ⟨_, hcards, rfl⟩ := board_eq_ok.mp h
  have hkeys : ((s.columns.flatMap placements).map fun p => p.2.id).Nodup := by
    rw [cardIds, cards, ← map_placements, List.map_map] at hcards
    exact hcards
  have hmem : (column.id, c) ∈ s.columns.flatMap placements :=
    List.mem_flatMap.mpr ⟨column, hcolumn, List.mem_map.mpr ⟨c, hc, rfl⟩⟩
  exact Dict.get_foldl_of_mem get?_place hkeys hmem Dict.empty

/-- Nothing else is on the board. -/
theorem card?_board_of_not_mem {s : Scenario} (h : s.board = .ok b) {x : String} (hx : x ∉ s.cardIds) :
    b.card? x = none := by
  obtain ⟨_, _, rfl⟩ := board_eq_ok.mp h
  show ((s.columns.flatMap placements).foldl place Dict.empty).get? x = none
  rw [get?_places_eq_none]
  refine ⟨rfl, fun p hp heq => hx ?_⟩
  rw [cardIds, cards, ← map_placements, List.map_map]
  exact List.mem_map.mpr ⟨p, hp, heq.symm⟩

end Scenario
end Kanban
