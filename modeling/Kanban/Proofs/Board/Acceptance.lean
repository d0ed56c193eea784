import Mathlib.Data.List.Nodup
import Kanban.Proofs.Board.Arrivals

/-!
# `Proofs.Board.Acceptance` — a card that a container accepts can be moved there, now and later

Whether a container accepts a card is read off the card alone. The lists are not looked at, and neither is the
container, which may not even exist. On a board made by operations that is enough: such a card is in a list, but
not in the list of that container. It stays enough, since no operation takes a card or a container off the
board, so that a move which was accepted once never fails.

## Contents
- `Consistent.listed_iff`, `Consistent.canAccept_iff_lists`: acceptance in terms of the lists.
- `Consistent.lists_nodup`: all lists together.
- `Grows`, `grows_performed`, `grows_foldl`: what is on a board stays there.
- `Consistent.transfer_commits`: moves of what is there, to where it can go.
- `accepted_stays_committable`: both halves for every board made by operations.
-/

namespace Kanban.Board

variable {b b' : Board} {x target : String} {k : Container}

/-! ## Acceptance and the lists -/

/-- A container that owns a card is the only one that does not accept it. -/
theorem canAccept_of_owns (h : b.owns target x = true) (i : String) :
    b.canAccept x i = true ↔ i ≠ target := by
  obtain ⟨c, hc, rfl⟩ := owns_iff.mp h
  rw [canAccept_iff, hc]
  simp [eq_comm]

/-- The cards of a board are those in its lists. -/
theorem Consistent.listed_iff (h : b.Consistent) :
    (∃ k ∈ b.containers, x ∈ k.cards) ↔ (b.card? x).isSome = true := by
  rw [Option.isSome_iff_exists]
  constructor
  · rintro ⟨k, hk, hx⟩
    obtain ⟨c, hc, _⟩ := owns_iff.mp ((h.mem_iff k hk x).mp hx)
    exact ⟨c, hc⟩
  · rintro ⟨c, hc⟩
    obtain ⟨k, hk, _, hx⟩ := h.exists_container hc
    exact ⟨k, hk, hx⟩

theorem Consistent.canAccept_iff_lists (h : b.Consistent) (hk : k ∈ b.containers) :
    b.canAccept x k.id = true ↔ (∃ k' ∈ b.containers, x ∈ k'.cards) ∧ x ∉ k.cards := by
  rw [h.listed_iff, h.mem_iff k hk x, canAccept_iff, owns_iff, Option.isSome_iff_exists]
  constructor
  · rintro ⟨c, hc, hne⟩
    refine ⟨⟨c, hc⟩, ?_⟩
    rintro ⟨c', hc', heq⟩
    rw [hc] at hc'
    cases hc'
    exact hne heq
  · rintro ⟨⟨c, hc⟩, hnot⟩
    exact ⟨c, hc, fun heq => hnot ⟨c, hc, heq⟩⟩

/-- No card is in all lists together twice. -/
theorem Consistent.lists_nodup (h : b.Consistent) : (b.containers.flatMap (·.cards)).Nodup := by
  refine List.nodup_flatMap.mpr ⟨h.nodup, ?_⟩
  have hids : b.containers.Pairwise fun k k' => k.id ≠ k'.id := List.pairwise_map.mp h.ids
  refine hids.imp_of_mem fun {k k'} hk hk' hne x hx hx' => hne ?_
  obtain ⟨c, hc, hid⟩ := owns_iff.mp ((h.mem_iff k hk x).mp hx)
  exact hid.symm.trans (h.container_of_mem hc hk' hx').symm

/-! ## What is on a board stays there -/

/-- Every card is still on the board, and every container in its place. -/
structure Grows (b b' : Board) : Prop where
  cards : ∀ x, (b.card? x).isSome = true → (b'.card? x).isSome = true
  ids : b.containers.map (·.id) <+: b'.containers.map (·.id)

theorem Grows.refl (b : Board) : Grows b b := ⟨fun _ h => h, List.prefix_rfl⟩

theorem Grows.trans {b'' : Board} (h : Grows b b') (h' : Grows b' b'') : Grows b b'' :=
  ⟨fun x hx => h'.cards x (h.cards x hx), h.ids.trans h'.ids⟩

/-- No container is new. -/
theorem Grows.of_ids (hcards : ∀ x, (b.card? x).isSome = true → (b'.card? x).isSome = true)
    (hids : b'.containers.map (·.id) = b.containers.map (·.id)) : Grows b b' :=
  ⟨hcards, hids ▸ List.prefix_rfl⟩

/-- A change to one card leaves it on the board. -/
theorem Grows.of_changes {card : String} {f : Card → Card} (h : Changes card f b b')
    (hids : b'.containers.map (·.id) = b.containers.map (·.id)) : Grows b b' := by
  refine .of_ids (fun x hx => ?_) hids
  obtain ⟨c, hc⟩ := Option.isSome_iff_exists.mp hx
  obtain ⟨c', hc', _⟩ := h.after hc
  exact Option.isSome_iff_exists.mpr ⟨c', hc'⟩

theorem grows_addContainer {id : String} {droppable : Bool} (h : b.addContainer id droppable = .ok b') :
    Grows b b' := by
  obtain ⟨_, rfl⟩ := addContainer_eq_ok.mp h
  refine ⟨fun _ hx => hx, ?_⟩
  rw [List.map_append]
  exact List.prefix_append _ _

theorem grows_addCard {container id : String} {issue : Payload} {width : Float}
    (h : b.addCard container id issue width = .ok b') : Grows b b' := by
  refine .of_ids (fun x hx => ?_) ?_
  · rw [card?_addCard h]
    split
    · rfl
    · exact hx
  · obtain ⟨_, _, rfl⟩ := addCard_eq_ok.mp h
    exact updateFirst_ids (plus_id id) b.containers

theorem grows_transfer {card : String} (h : b.transfer card target = .ok b') : Grows b b' := by
  obtain ⟨c, _, rfl | rfl⟩ := transfer_eq_ok h
  · exact .refl b'
  · exact .of_changes (changes_transferred b card c.container target) (transferred_ids ..)

theorem grows_setDroppable {container : String} {droppable : Bool}
    (h : b.setDroppable container droppable = .ok b') : Grows b b' := by
  obtain ⟨_, rfl⟩ := setDroppable_eq_ok.mp h
  exact .of_ids (fun _ hx => hx)
    (updateFirst_ids (f := fun k => { k with droppable }) (fun _ => rfl) b.containers)

/-- **One operation,** whether it succeeds or not. -/
theorem grows_performed (b : Board) (op : Operation) : Grows b (b.performed op) := by
  unfold performed
  cases hb : b.perform op with
  | error fault => exact .refl b
  | ok b' =>
    cases op with
    | addContainer id droppable => exact grows_addContainer hb
    | addCard container id issue width => exact grows_addCard hb
    | transfer card target => exact grows_transfer hb
    | setDroppable container droppable => exact grows_setDroppable hb
    | setDragging card dragging =>
      cases hb
      exact .of_changes (changes_setDragging b card dragging) rfl

/-- **A whole run.** -/
theorem grows_foldl (b : Board) (ops : List Operation) : Grows b (ops.foldl performed b) := by
  induction ops generalizing b with
  | nil => exact .refl b
  | cons op rest ih => exact (grows_performed b op).trans (ih (b.performed op))

/-! ## Moves -/

/-- A card that is on the board comes to every container that is there, and both records say so. -/
theorem Consistent.transfer_commits (h : b.Consistent) (hx : (b.card? x).isSome = true)
    (ht : target ∈ b.containers.map (·.id)) :
    ∃ b', b.transfer x target = .ok b' ∧ b'.Consistent ∧ b'.owns target x = true := by
  obtain ⟨c, hc⟩ := Option.isSome_iff_exists.mp hx
  by_cases hsame : c.container = target
  · exact ⟨b, transfer_same hc hsame, h, owns_iff.mpr ⟨c, hc, hsame⟩⟩
  · have hsource := container?_isSome.mpr (h.home x c hc)
    refine ⟨_, transfer_other hc hsame (container?_isSome.mpr ht) hsource, h.transferred hc hsame ht, ?_⟩
    rw [owns_iff, card?_transferred, if_pos rfl, hc]
    exact ⟨_, rfl, rfl⟩

/-- **A card that a container accepts can be moved there, now and later.** On a board made by operations, a
    container accepts exactly the cards that are in some list, but not in its own one. Such a card can be moved
    there whatever happens in between: the move succeeds, the card is then in the list of that container, once,
    and in no other list, and every container accepts it except that one. -/
theorem accepted_stays_committable (ops : List Operation) (x : String) {k : Container}
    (hk : k ∈ (made ops).containers) :
    ((made ops).canAccept x k.id = true ↔
        (∃ k' ∈ (made ops).containers, x ∈ k'.cards) ∧ x ∉ k.cards) ∧
      ((made ops).canAccept x k.id = true → ∀ later : List Operation,
        ∃ b', (later.foldl performed (made ops)).perform (.transfer x k.id) = .ok b' ∧
          (b'.containers.flatMap (·.cards)).count x = 1 ∧
          (∃ k' ∈ b'.containers, k'.id = k.id ∧ x ∈ k'.cards) ∧
          b'.canAccept x k.id = false ∧
          ∀ k' ∈ b'.containers, k'.id ≠ k.id → b'.canAccept x k'.id = true) := by
  have hmade := (follows_foldl follows_empty ops).consistent
  refine ⟨hmade.canAccept_iff_lists hk, fun haccepts later => ?_⟩
  have hlater := (follows_foldl follows_empty (ops ++ later)).consistent
  rw [List.foldl_append] at hlater
  have hgrows := grows_foldl (made ops) later
  -- Neither the card nor the container has gone in between.
  have hcard := hgrows.cards x (hmade.listed_iff.mp ((hmade.canAccept_iff_lists hk).mp haccepts).1)
  have hid := hgrows.ids.subset (List.mem_map_of_mem hk)
  obtain ⟨b', hb', hconsistent, howns⟩ := hlater.transfer_commits hcard hid
  obtain ⟨c, hc, hhome⟩ := owns_iff.mp howns
  obtain ⟨k', hk', hid', hx'⟩ := hconsistent.exists_container hc
  refine ⟨b', hb', ?_, ⟨k', hk', hid'.trans hhome, hx'⟩, ?_, fun i _ hne => ?_⟩
  · exact List.count_eq_one_of_mem hconsistent.lists_nodup (List.mem_flatMap.mpr ⟨k', hk', hx'⟩)
  · rw [Bool.eq_false_iff]
    exact fun hself => (canAccept_of_owns howns _).mp hself rfl
  · exact (canAccept_of_owns howns _).mpr hne

/-- A card that is moved elsewhere and a container that is closed after it has accepted the card. -/
theorem accepted_stays_committable_detour :
    let b := made [.addContainer "todo" true, .addContainer "doing" true, .addContainer "done" true,
      .addCard "todo" "c1" .null 1]
    let later : List Operation := [.transfer "c1" "doing", .setDroppable "done" false]
    b.canAccept "c1" "done" = true ∧
      ∃ b', (later.foldl performed b).perform (.transfer "c1" "done") = .ok b' ∧
        (b'.containers.flatMap (·.cards)).count "c1" = 1 ∧
        (∃ k ∈ b'.containers, k.id = "done" ∧ "c1" ∈ k.cards) ∧
        b'.canAccept "c1" "done" = false ∧
        ∀ k ∈ b'.containers, k.id ≠ "done" → b'.canAccept "c1" k.id = true := by
  intro b later
  have hdone : (⟨"done", [], true⟩ : Container) ∈ b.containers := by decide +kernel
  have haccepts : b.canAccept "c1" "done" = true := by decide +kernel
  exact ⟨haccepts, (accepted_stays_committable _ "c1" hdone).2 haccepts later⟩

end Kanban.Board
