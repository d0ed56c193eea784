import Kanban.Proofs.Scenario.Board
import Mathlib.Data.List.Induction
import Mathlib.Data.List.Nodup

/-!
# `Proofs.Scenario.FirstRepeat` — a scenario without a board, and what it is blamed for

A scenario is read column by column, every column before its cards. Columns and cards have identifiers of
their own, so a card may be named like a column. The first identifier that was there before is what a scenario
is blamed for, and only if there is none it has a board.

A scenario that is cut off before some identifier has all columns before, and the cards of one more column up
to that point. If nothing repeats up to there, the board of what was cut off is known, and what happens next is
one operation on it.

## Contents
- `Ident`, `Ident.taken`, `Scenario.idents`: identifiers in the order in which they are read.
- `nodup_idents`: none of them repeats exactly if those of columns and those of cards differ.
- `exists_first_repeat`: some identifier is the first one to repeat.
- `UpTo`, `upTo_of_split`: what comes before an identifier; `addColumns_of_upTo`: what happens at one that repeats.
- `board_built_or_blamed`: the board of a scenario, or the reason why it has none.
-/

namespace Kanban

/-- The identifier of a column or of a card. -/
inductive Ident where
  | column (id : String)
  | card (id : String)
  deriving DecidableEq, Repr

/-- What is said about an identifier that is there already. -/
def Ident.taken : Ident → Fault
  | column id => .validation s!"Container {id} already exists"
  | card id => .validation s!"Card {id} already exists"

namespace Scenario

/-- The identifiers of a column and then of its cards. -/
def columnIdents (c : ColumnPlan) : List Ident := .column c.id :: c.cards.map fun card => .card card.id

/-- All identifiers in the order in which they are read. -/
def idents (s : Scenario) : List Ident := s.columns.flatMap columnIdents

/-! ## Identifiers that repeat -/

theorem perm_idents (columns : List ColumnPlan) :
    (columns.flatMap columnIdents).Perm
      ((columns.map (·.id)).map Ident.column ++ ((columns.flatMap (·.cards)).map (·.id)).map Ident.card) := by
  induction columns with
  | nil => exact .nil
  | cons c rest ih =>
    simp only [List.flatMap_cons, columnIdents, List.map_cons, List.map_append, List.cons_append, List.map_map,
      Function.comp_def] at ih ⊢
    refine .cons _ ?_
    -- The cards of this column change places with all other columns.
    refine (ih.append_left _).trans ?_
    rw [← List.append_assoc, ← List.append_assoc]
    exact List.perm_append_comm.append_right _

/-- **No identifier repeats** exactly if the columns differ and the cards differ. -/
theorem nodup_idents {columns : List ColumnPlan} :
    (columns.flatMap columnIdents).Nodup ↔
      (columns.map (·.id)).Nodup ∧ ((columns.flatMap (·.cards)).map (·.id)).Nodup := by
  have hcolumn : Function.Injective Ident.column := fun _ _ h => Ident.column.inj h
  have hcard : Function.Injective Ident.card := fun _ _ h => Ident.card.inj h
  rw [(perm_idents columns).nodup_iff, List.nodup_append, List.nodup_map_iff hcolumn, List.nodup_map_iff hcard]
  refine ⟨fun h => ⟨h.1, h.2.1⟩, fun h => ⟨h.1, h.2, ?_⟩⟩
  intro x hx y hy heq
  obtain ⟨_, -, rfl⟩ := List.mem_map.mp hx
  obtain ⟨_, -, rfl⟩ := List.mem_map.mp hy
  cases heq

/-- Where something repeats, something is the first to do so. -/
theorem exists_first_repeat {α : Type} {l : List α} (h : ¬ l.Nodup) :
    ∃ before x after, l = before ++ x :: after ∧ before.Nodup ∧ x ∈ before := by
  induction l using List.reverseRecOn with
  | nil => exact absurd List.nodup_nil h
  | append_singleton l x ih =>
    by_cases hl : l.Nodup
    · refine ⟨l, x, [], rfl, hl, ?_⟩
      by_contra hx
      exact h (Board.nodup_snoc hl hx)
    · obtain ⟨before, y, after, rfl, hbefore, hy⟩ := ih hl
      exact ⟨before, y, after ++ [x], by simp, hbefore, hy⟩

/-! ## What comes before an identifier -/

/-- **A scenario up to an identifier** consists of whole columns, and of the first cards of one more column if it
    is the identifier of a card. -/
inductive UpTo (columns : List ColumnPlan) : List Ident → Ident → Prop where
  | column {earlier later : List ColumnPlan} {c : ColumnPlan} : columns = earlier ++ c :: later →
      UpTo columns (earlier.flatMap columnIdents) (.column c.id)
  | card {earlier later : List ColumnPlan} {c : ColumnPlan} {first rest : List CardPlan} {card : CardPlan} :
      columns = earlier ++ c :: later → c.cards = first ++ card :: rest →
      UpTo columns ((earlier ++ [{ c with cards := first }]).flatMap columnIdents) (.card card.id)

/-- Columns in front come before everything. -/
theorem UpTo.cons {columns : List ColumnPlan} {before : List Ident} {x : Ident} (h : UpTo columns before x)
    (c : ColumnPlan) : UpTo (c :: columns) (columnIdents c ++ before) x := by
  cases h with
  | column hcolumns =>
    rw [← List.flatMap_cons]
    exact .column (by rw [hcolumns, List.cons_append])
  | card hcolumns hcards =>
    rw [← List.flatMap_cons, ← List.cons_append]
    exact .card (by rw [hcolumns, List.cons_append]) hcards

theorem upTo_of_split {columns : List ColumnPlan} {before after : List Ident} {x : Ident}
    (h : columns.flatMap columnIdents = before ++ x :: after) : UpTo columns before x := by
  induction columns generalizing before with
  | nil => simp at h
  | cons c later ih =>
    rw [List.flatMap_cons, columnIdents, List.cons_append] at h
    cases before with
    | nil =>
      -- The identifier is the one of the first column.
      rw [List.nil_append, List.cons.injEq] at h
      have hfirst : c :: later = [] ++ c :: later := rfl
      rw [← h.1]
      exact .column hfirst
    | cons y before =>
      rw [List.cons_append, List.cons.injEq] at h
      obtain ⟨rfl, h⟩ := h
      obtain ⟨before', rfl, hlater⟩ | ⟨within, hcards, hafter⟩ := List.append_eq_append_iff.mp h
      · exact (ih hlater).cons c
      · cases within with
        | nil =>
          rw [List.append_nil] at hcards
          rw [← hcards]
          have hlater : UpTo later [] x := ih hafter.symm
          have hcons := hlater.cons c
          rwa [List.append_nil] at hcons
        | cons z within =>
          -- The identifier is the one of a card in the first column.
          rw [List.cons_append, List.cons.injEq] at hafter
          obtain ⟨first, rest, hsplit, hfirst, hrest⟩ := List.map_eq_append_iff.mp hcards
          obtain ⟨card, rest, rfl, hcard, -⟩ := List.map_eq_cons_iff.mp hrest
          have hcut : UpTo (c :: later) (([] ++ [{ c with cards := first }]).flatMap columnIdents)
              (.card card.id) := UpTo.card rfl hsplit
          rw [hafter.1, ← hcard, ← hfirst]
          simpa [columnIdents] using hcut

/-! ## What happens at an identifier -/

variable {columns : List ColumnPlan} {before : List Ident} {x : Ident} {b : Board}

/-- What was read without repetition is on the board. -/
theorem addColumns_of_nodup (h : (columns.flatMap columnIdents).Nodup) :
    columns.foldlM addColumn Board.empty = .ok (laidOut columns) := by
  obtain ⟨hcolumns, hcards⟩ := nodup_idents.mp h
  exact addColumns_eq_ok.mpr ⟨⟨hcolumns, fun _ _ => rfl⟩, ⟨hcards, fun _ _ => rfl⟩, rfl⟩

theorem container?_laidOut {id : String} (h : .column id ∈ columns.flatMap columnIdents) :
    ((laidOut columns).container? id).isSome = true := by
  rw [Board.container?_isSome, laidOut, List.map_map]
  rw [(perm_idents columns).mem_iff] at h
  simpa [ColumnPlan.container] using h

theorem card?_laidOut {id : String} (h : .card id ∈ columns.flatMap columnIdents) :
    ((laidOut columns).card? id).isSome = true := by
  rw [Option.isSome_iff_ne_none]
  intro hnone
  obtain ⟨-, habsent⟩ := get?_places_eq_none.mp hnone
  rw [(perm_idents columns).mem_iff, ← map_placements] at h
  simp only [List.mem_append, List.mem_map, reduceCtorEq, and_false, exists_false, false_or,
    Ident.card.injEq, exists_eq_right] at h
  obtain ⟨_, ⟨p, hp, rfl⟩, hid⟩ := h
  exact habsent p hp hid.symm

/-- **Columns are refused at the first identifier that repeats.** -/
theorem addColumns_of_upTo (h : UpTo columns before x) (hbefore : before.Nodup) (hx : x ∈ before) :
    columns.foldlM addColumn Board.empty = .error x.taken := by
  cases h with
  | @column earlier later c hcolumns =>
    have hrefused : addColumn (laidOut earlier) c = .error (Ident.column c.id).taken := by
      rw [addColumn, Board.addContainer_of_isSome (container?_laidOut hx)]
      rfl
    rw [hcolumns]
    exact Fault.foldlM_stops (addColumns_of_nodup hbefore) hrefused
  | @card earlier later c first rest card hcolumns hcards =>
    -- The board before the card is the one of the columns before and the first cards of this one.
    obtain ⟨b, hearlier, hcut⟩ := Fault.foldlM_snoc_eq_ok.mp (addColumns_of_nodup hbefore)
    rw [addColumn, Fault.bind_eq_ok] at hcut
    obtain ⟨b', hcolumn, hfirst⟩ := hcut
    have hcard : addCard c.id (laidOut (earlier ++ [{ c with cards := first }])) card =
        .error (Ident.card card.id).taken := by
      rw [addCard, Board.addCard_of_isSome (card?_laidOut hx)]
      rfl
    have hrefused : addColumn b c = .error (Ident.card card.id).taken := by
      rw [addColumn, hcolumn, hcards]
      exact Fault.foldlM_stops hfirst hcard
    rw [hcolumns]
    exact Fault.foldlM_stops hearlier hrefused

/-! ## The board of a scenario -/

theorem nodup_scenario_idents {s : Scenario} : s.idents.Nodup ↔ s.columnIds.Nodup ∧ s.cardIds.Nodup :=
  nodup_idents

/-- **A scenario without a board** is blamed for the first identifier that repeats. -/
theorem board_eq_error {s : Scenario} {fault : Fault} :
    s.board = .error fault ↔
      ∃ before x after, s.idents = before ++ x :: after ∧ before.Nodup ∧ x ∈ before ∧ fault = x.taken := by
  constructor
  · intro h
    have hrepeats : ¬ s.idents.Nodup := by
      intro hnodup
      obtain ⟨hcolumns, hcards⟩ := nodup_scenario_idents.mp hnodup
      rw [board_eq_ok.mpr ⟨hcolumns, hcards, rfl⟩] at h
      cases h
    obtain ⟨before, x, after, hsplit, hbefore, hx⟩ := exists_first_repeat hrepeats
    refine ⟨before, x, after, hsplit, hbefore, hx, ?_⟩
    have hblamed : s.board = .error x.taken := addColumns_of_upTo (upTo_of_split hsplit) hbefore hx
    exact Except.error.inj (h.symm.trans hblamed)
  · rintro ⟨before, x, after, hsplit, hbefore, hx, rfl⟩
    exact addColumns_of_upTo (upTo_of_split hsplit) hbefore hx

theorem card?_board_eq_some {s : Scenario} {b : Board} (h : s.board = .ok b) {x : String} {k : Card} :
    b.card? x = some k ↔ ∃ c ∈ s.columns, ∃ card ∈ c.cards, card.id = x ∧ card.card c.id = k := by
  constructor
  · intro hk
    have hx : x ∈ s.cardIds := by
      by_contra hx
      rw [card?_board_of_not_mem h hx] at hk
      cases hk
    obtain ⟨card, hcard, rfl⟩ := List.mem_map.mp hx
    obtain ⟨c, hc, hcard⟩ := List.mem_flatMap.mp hcard
    rw [card?_board h hc hcard] at hk
    exact ⟨c, hc, card, hcard, rfl, Option.some.inj hk⟩
  · rintro ⟨c, hc, card, hcard, rfl, rfl⟩
    exact card?_board h hc hcard

/-- **The board of a scenario,** checked or not.
    - There is one exactly if the identifiers of columns differ, and those of cards differ over all columns
      together.
    - Its containers are the columns in their order, each as open for drops as it is written down and with its
      cards in their order. Its cards are those of the scenario, each with its own issue and width, in its column
      and not marked as being dragged.
    - If there is none, the reason is the first identifier that was read before. It is never that a container is
      missing. -/
theorem board_built_or_blamed (s : Scenario) :
    ((∃ b, s.board = .ok b) ↔ s.columnIds.Nodup ∧ s.cardIds.Nodup) ∧
    (∀ b, s.board = .ok b →
      b.containers = s.columns.map (fun c => ⟨c.id, c.cards.map (·.id), c.droppable⟩) ∧
      ∀ x k, b.card? x = some k ↔
        ∃ c ∈ s.columns, ∃ card ∈ c.cards, card.id = x ∧ ⟨card.id, card.issue, c.id, card.width, false⟩ = k) ∧
    (∀ fault, s.board = .error fault ↔
      ∃ before x after, s.idents = before ++ x :: after ∧ before.Nodup ∧ x ∈ before ∧ fault = x.taken) ∧
    ∀ id, s.board ≠ .error (.unknownContainer id) := by
  refine ⟨⟨?_, ?_⟩, ?_, fun fault => board_eq_error, ?_⟩
  · rintro ⟨b, hb⟩
    obtain ⟨hcolumns, hcards, -⟩ := board_eq_ok.mp hb
    exact ⟨hcolumns, hcards⟩
  · rintro ⟨hcolumns, hcards⟩
    exact ⟨_, board_eq_ok.mpr ⟨hcolumns, hcards, rfl⟩⟩
  · intro b hb
    obtain ⟨-, -, rfl⟩ := board_eq_ok.mp hb
    exact ⟨rfl, fun x k => card?_board_eq_some hb⟩
  · intro id hb
    obtain ⟨_, x, _, _, _, _, hfault⟩ := board_eq_error.mp hb
    cases x <;> cases hfault

/-- A column that is named like a card, this card in two columns, and after it a column that repeats. -/
def crossedSprint : Scenario where
  name := "sprint"
  description := none
  confirmationTimeout := none
  refresh := none
  viewport := ⟨0, 500, 800, 0⟩
  columns := [⟨"todo", true, true, [⟨"c1", true, 100, .null⟩, ⟨"c2", true, 100, .null⟩]⟩,
    ⟨"c1", true, true, [⟨"c3", true, 100, .null⟩, ⟨"c1", true, 100, .null⟩]⟩, ⟨"todo", true, true, []⟩]
  steps := []

/-- The card comes before the column. -/
theorem board_built_or_blamed_crossed :
    crossedSprint.board = .error (.validation "Card c1 already exists") ∧
      ¬ (crossedSprint.columnIds.Nodup ∧ crossedSprint.cardIds.Nodup) ∧
      ∃ b, Scenario.board { crossedSprint with columns := crossedSprint.columns.take 1 } = .ok b ∧
        b.containers = [⟨"todo", ["c1", "c2"], true⟩] := by
  obtain ⟨hbuilt, -, hblamed, -⟩ := board_built_or_blamed crossedSprint
  obtain ⟨hbuilt', hcontainers, -, -⟩ :=
    board_built_or_blamed { crossedSprint with columns := crossedSprint.columns.take 1 }
  have hcard : crossedSprint.board = .error (Ident.card "c1").taken :=
    (hblamed _).mpr ⟨[.column "todo", .card "c1", .card "c2", .column "c1", .card "c3"], .card "c1",
      [.column "todo"], by rfl, by decide, by decide, rfl⟩
  obtain ⟨b, hb⟩ := hbuilt'.mpr ⟨by decide, by decide⟩
  refine ⟨hcard, fun hdiffer => ?_, b, hb, (hcontainers b hb).1⟩
  obtain ⟨b, hb⟩ := hbuilt.mpr hdiffer
  rw [hcard] at hb
  cases hb

end Scenario
end Kanban
