import Kanban.Board.Edit

/-!
# `Proofs.Board.Operations` — what the operations of a board do when they succeed

Each operation has one lemma that says when it succeeds and which board it leaves, and one that says what
the cards of that board are. Nothing after this module unfolds an operation.

## Contents
- `container?_isSome`, `canAccept_iff`: what is found, and what can be accepted.
- `addContainer_eq_ok`, `addCard_eq_ok`, `transfer_eq_ok`, `setDroppable_eq_ok`; `addContainer_of_isSome`,
  `addCard_of_isSome`: why nothing is added.
- `transfer_of_none`, `transfer_to_nowhere`, `transfer_from_nowhere`: why a move is refused.
- `updateFirst_eq_map`: the containers afterwards.
- `card?_addCard`, `card?_transferred`, `card?_setDragging`: the cards afterwards.
- `Changes`: the cards of a board in which one card was changed.
-/

namespace Kanban.Board

variable {b b' : Board}

/-! ## Looking up -/

theorem findContainer_eq_ok {id : String} {k : Container} :
    b.findContainer id = .ok k ↔ b.container? id = some k := by
  unfold findContainer
  cases b.container? id with
  | none => simp
  | some k' => simp

theorem findContainer_of_none {id : String} (h : b.container? id = none) :
    b.findContainer id = .error (.unknownContainer id) := by
  simp [findContainer, h]

theorem container?_id {id : String} {k : Container} (h : b.container? id = some k) : k.id = id := by
  have := List.find?_some h
  simpa using this

theorem container?_mem {id : String} {k : Container} (h : b.container? id = some k) : k ∈ b.containers :=
  List.mem_of_find?_eq_some h

theorem container?_eq_none {id : String} :
    b.container? id = none ↔ ∀ k ∈ b.containers, k.id ≠ id := by
  simp [container?, List.find?_eq_none]

/-- There is a container exactly if its identifier is among those of the board. -/
theorem container?_isSome {id : String} :
    (b.container? id).isSome = true ↔ id ∈ b.containers.map (·.id) := by
  simp [container?, List.find?_isSome]

theorem container?_eq_none_iff {id : String} :
    b.container? id = none ↔ id ∉ b.containers.map (·.id) := by
  rw [← container?_isSome, Option.not_isSome_iff_eq_none]

theorem canAccept_iff {x target : String} :
    b.canAccept x target = true ↔ ∃ c, b.card? x = some c ∧ c.container ≠ target := by
  unfold canAccept
  cases b.card? x with
  | none => simp
  | some c => simp

theorem contains_cards {id : String} : b.cards.contains id = (b.card? id).isSome := rfl

/-! ## Changing the first container with an identifier -/

@[simp] theorem updateContainer_cards (b : Board) (id : String) (f : Container → Container) :
    (b.updateContainer id f).cards = b.cards := rfl

theorem updateFirst_ids {id : String} {f : Container → Container} (hf : ∀ k, (f k).id = k.id)
    (l : List Container) : (updateFirst id f l).map (·.id) = l.map (·.id) := by
  induction l with
  | nil => rfl
  | cons k rest ih =>
    unfold updateFirst
    by_cases h : k.id = id
    · simp [h, hf]
    · simp [h, ih]

/-- Where identifiers differ, the first container with an identifier is the only one. -/
theorem updateFirst_eq_map {id : String} {f : Container → Container} {l : List Container}
    (hn : (l.map (·.id)).Nodup) : updateFirst id f l = l.map fun k => if k.id = id then f k else k := by
  induction l with
  | nil => rfl
  | cons k rest ih =>
    rw [List.map_cons, List.nodup_cons] at hn
    unfold updateFirst
    by_cases h : k.id = id
    · -- No later container has the identifier, so the map stops changing anything here, too.
      have hrest : rest.map (fun k => if k.id = id then f k else k) = rest := by
        refine List.map_congr_left (fun k' hk' => ?_) |>.trans (List.map_id rest)
        rw [if_neg]
        · rfl
        · intro he
          exact hn.1 (by rw [h, ← he]; exact List.mem_map_of_mem hk')
      rw [if_pos h, List.map_cons, if_pos h, hrest]
    · rw [if_neg h, List.map_cons, if_neg h, ih hn.2]

theorem updateFirst_append {id : String} {f : Container → Container} {l m : List Container}
    (h : id ∉ l.map (·.id)) : updateFirst id f (l ++ m) = l ++ updateFirst id f m := by
  induction l with
  | nil => rfl
  | cons k rest ih =>
    simp only [List.map_cons, List.mem_cons, not_or] at h
    rw [List.cons_append, updateFirst, if_neg (Ne.symm h.1), ih h.2, List.cons_append]

/-! ## Operations that succeed -/

theorem addContainer_eq_ok {id : String} {droppable : Bool} :
    b.addContainer id droppable = .ok b' ↔
      b.container? id = none ∧ b' = { b with containers := b.containers ++ [⟨id, [], droppable⟩] } := by
  unfold addContainer
  cases h : b.container? id with
  | none => simp [eq_comm]
  | some k => simp

/-- No two containers get one identifier. -/
theorem addContainer_of_isSome {id : String} (h : (b.container? id).isSome = true) (droppable : Bool) :
    b.addContainer id droppable = .error (.validation s!"Container {id} already exists") := if_pos h

theorem addCard_eq_ok {container id : String} {issue : Payload} {width : Float} :
    b.addCard container id issue width = .ok b' ↔
      b.card? id = none ∧ (b.container? container).isSome = true ∧
        b' = ⟨updateFirst container (fun k => { k with cards := k.cards ++ [id] }) b.containers,
          b.cards.insert id ⟨id, issue, container, width, false⟩⟩ := by
  unfold addCard
  rw [contains_cards]
  cases hc : b.card? id with
  | some c => simp
  | none =>
    cases hk : b.container? container with
    | none => simp [findContainer_of_none hk, bind, Except.bind]
    | some k =>
      rw [findContainer_eq_ok.mpr hk]
      simp [bind, Except.bind, pure, Except.pure, updateContainer, eq_comm]

/-- No two cards get one identifier, wherever they are. -/
theorem addCard_of_isSome {id : String} (h : (b.card? id).isSome = true) (container : String) (issue : Payload)
    (width : Float) :
    b.addCard container id issue width = .error (.validation s!"Card {id} already exists") := if_pos h

theorem setDroppable_eq_ok {container : String} {droppable : Bool} :
    b.setDroppable container droppable = .ok b' ↔
      (b.container? container).isSome = true ∧
        b' = { b with containers := updateFirst container (fun k => { k with droppable }) b.containers } := by
  unfold setDroppable
  cases hk : b.container? container with
  | none => simp [findContainer_of_none hk, bind, Except.bind]
  | some k =>
    rw [findContainer_eq_ok.mpr hk]
    simp [bind, Except.bind, pure, Except.pure, updateContainer, eq_comm]

theorem setDroppable_of_none {container : String} (h : b.container? container = none) (droppable : Bool) :
    b.setDroppable container droppable = .error (.unknownContainer container) := by
  rw [setDroppable, findContainer_of_none h]
  rfl

/-- The board after a card has left one container for another. -/
def transferred (b : Board) (card source target : String) : Board :=
  ⟨updateFirst target (fun k => { k with cards := k.cards ++ [card] })
      (updateFirst source (fun k => { k with cards := k.cards.filter (· ≠ card) }) b.containers),
    b.cards.modify card fun c => { c with container := target }⟩

theorem transferred_containers_eq (b : Board) (card source target : String) :
    (b.transferred card source target).containers =
      updateFirst target (plus card) (updateFirst source (without card) b.containers) := rfl

/-- All containers keep their identifiers and places. -/
theorem transferred_ids (b : Board) (card source target : String) :
    (b.transferred card source target).containers.map (·.id) = b.containers.map (·.id) := by
  rw [transferred_containers_eq, updateFirst_ids (plus_id card), updateFirst_ids (without_id card)]

theorem transfer_of_some {card target : String} {c : Card} (hc : b.card? card = some c) :
    b.transfer card target =
      if c.container = target then .ok b
      else (b.findContainer target).bind fun _ => (b.findContainer c.container).bind fun _ =>
        .ok (b.transferred card c.container target) := by
  unfold transfer
  rw [hc]
  rfl

/-- A card that is where it is to go stays there. -/
theorem transfer_same {card target : String} {c : Card} (hc : b.card? card = some c)
    (h : c.container = target) : b.transfer card target = .ok b := by
  rw [transfer_of_some hc, if_pos h]

/-- A card moves if both ends are there. -/
theorem transfer_other {card target : String} {c : Card} (hc : b.card? card = some c)
    (h : c.container ≠ target) (ht : (b.container? target).isSome = true)
    (hs : (b.container? c.container).isSome = true) :
    b.transfer card target = .ok (b.transferred card c.container target) := by
  obtain ⟨k, hk⟩ := Option.isSome_iff_exists.mp ht
  obtain ⟨k', hk'⟩ := Option.isSome_iff_exists.mp hs
  rw [transfer_of_some hc, if_neg h, findContainer_eq_ok.mpr hk, findContainer_eq_ok.mpr hk']
  rfl

theorem transfer_of_none {card target : String} (hc : b.card? card = none) :
    b.transfer card target = .error (.unknownCard card) := by
  rw [transfer, hc]

/-- No card moves to a container that is not there. -/
theorem transfer_to_nowhere {card target : String} {c : Card} (hc : b.card? card = some c)
    (h : c.container ≠ target) (ht : b.container? target = none) :
    b.transfer card target = .error (.unknownContainer target) := by
  rw [transfer_of_some hc, if_neg h, findContainer_of_none ht]
  rfl

/-- No card leaves a container that is not there. -/
theorem transfer_from_nowhere {card target : String} {c : Card} {k : Container}
    (hc : b.card? card = some c) (h : c.container ≠ target) (ht : b.container? target = some k)
    (hs : b.container? c.container = none) :
    b.transfer card target = .error (.unknownContainer c.container) := by
  rw [transfer_of_some hc, if_neg h, findContainer_eq_ok.mpr ht, findContainer_of_none hs]
  rfl

/-- A move to another container succeeds exactly if both ends are there. -/
theorem transfer_other_eq_ok {card target : String} {c : Card} (hc : b.card? card = some c)
    (h : c.container ≠ target) :
    b.transfer card target = .ok b' ↔
      (b.container? target).isSome = true ∧ (b.container? c.container).isSome = true ∧
        b' = b.transferred card c.container target := by
  constructor
  · intro hb
    rw [transfer_of_some hc, if_neg h] at hb
    cases ht : b.container? target with
    | none => rw [findContainer_of_none ht] at hb; cases hb
    | some k =>
      cases hs : b.container? c.container with
      | none => rw [findContainer_eq_ok.mpr ht, findContainer_of_none hs] at hb; cases hb
      | some k' =>
        rw [findContainer_eq_ok.mpr ht, findContainer_eq_ok.mpr hs] at hb
        cases hb
        exact ⟨rfl, rfl, rfl⟩
  · rintro ⟨ht, hs, rfl⟩
    exact transfer_other hc h ht hs

/-- A move that succeeds leaves the board alone or transfers the card. -/
theorem transfer_eq_ok {card target : String} (h : b.transfer card target = .ok b') :
    ∃ c, b.card? card = some c ∧ (b' = b ∨ b' = b.transferred card c.container target) := by
  cases hc : b.card? card with
  | none => rw [transfer_of_none hc] at h; cases h
  | some c =>
    refine ⟨c, rfl, ?_⟩
    by_cases hsame : c.container = target
    · rw [transfer_same hc hsame] at h
      cases h
      exact Or.inl rfl
    · obtain ⟨_, _, rfl⟩ := (transfer_other_eq_ok hc hsame).mp h
      exact Or.inr rfl

/-! ## The cards afterwards -/

theorem card?_addCard {container id : String} {issue : Payload} {width : Float}
    (h : b.addCard container id issue width = .ok b') (y : String) :
    b'.card? y = if y = id then some ⟨id, issue, container, width, false⟩ else b.card? y := by
  obtain ⟨_, _, rfl⟩ := addCard_eq_ok.mp h
  exact Dict.get?_insert ..

theorem card?_transferred (b : Board) (card source target y : String) :
    (b.transferred card source target).card? y =
      if y = card then (b.card? y).map fun c => { c with container := target } else b.card? y :=
  Dict.get?_modify ..

theorem card?_setDragging (b : Board) (card : String) (d : Bool) (y : String) :
    (b.setDragging card d).card? y =
      if y = card then (b.card? y).map fun c => { c with dragging := d } else b.card? y :=
  Dict.get?_modify ..

/-! ## One card changed -/

/-- The second of two boards has the cards of the first, but for a change to one of them. -/
def Changes (card : String) (f : Card → Card) (b b' : Board) : Prop :=
  ∀ y, b'.card? y = if y = card then (b.card? y).map f else b.card? y

theorem changes_transferred (b : Board) (card source target : String) :
    Changes card (fun c => { c with container := target }) b (b.transferred card source target) :=
  card?_transferred b card source target

theorem changes_setDragging (b : Board) (card : String) (d : Bool) :
    Changes card (fun c => { c with dragging := d }) b (b.setDragging card d) :=
  card?_setDragging b card d

variable {card x : String} {f : Card → Card} {c : Card}

/-- Every card is still there, as it was or changed. -/
theorem Changes.after (h : Changes card f b b') (hx : b.card? x = some c) :
    ∃ c', b'.card? x = some c' ∧ (c' = c ∨ c' = f c) := by
  by_cases hid : x = card
  · exact ⟨f c, by rw [h, if_pos hid, hx]; rfl, Or.inr rfl⟩
  · exact ⟨c, by rw [h, if_neg hid, hx], Or.inl rfl⟩

/-- Every card was there before, as it is or not changed yet. -/
theorem Changes.before (h : Changes card f b b') (hx : b'.card? x = some c) :
    ∃ c', b.card? x = some c' ∧ (c = c' ∨ c = f c') := by
  rw [h] at hx
  by_cases hid : x = card
  · rw [if_pos hid] at hx
    obtain ⟨c', hc', rfl⟩ := Option.map_eq_some_iff.mp hx
    exact ⟨c', hc', Or.inr rfl⟩
  · rw [if_neg hid] at hx
    exact ⟨c, hx, Or.inl rfl⟩

end Kanban.Board
