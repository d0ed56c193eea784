import Kanban.Proofs.Board.Operations

/-!
# `Proofs.Board.Consistent` — both records of ownership agree

A board keeps who owns a card twice. On a board made by board operations alone the two records agree: a card
is in the list of a container exactly if it names that container, and it is there once.

## Contents
- `Board.Consistent`: the agreement.
- `Consistent.addContainer`, `Consistent.addCard`, `Consistent.transferred`, `Consistent.setDroppable`,
  `Consistent.setDragging`: every operation keeps it.
- `Consistent.exists_container`, `Consistent.container_of_mem`: the list that a card is in.
-/

namespace Kanban.Board

variable {b b' : Board}

theorem owns_iff {container x : String} :
    b.owns container x = true ↔ ∃ c, b.card? x = some c ∧ c.container = container := by
  unfold owns
  cases b.card? x with
  | none => simp
  | some c => simp

/-- A mark has nothing to do with ownership. -/
theorem owns_setDragging (b : Board) (card : String) (d : Bool) (container x : String) :
    (b.setDragging card d).owns container x = b.owns container x := by
  unfold owns
  rw [card?_setDragging]
  by_cases hx : x = card
  · rw [if_pos hx]
    cases b.card? x <;> rfl
  · rw [if_neg hx]

/-- One more entry that was not there before. -/
theorem nodup_snoc {α : Type} {l : List α} {a : α} (h : l.Nodup) (ha : a ∉ l) : (l ++ [a]).Nodup := by
  rw [List.nodup_append]
  refine ⟨h, List.nodup_cons.mpr ⟨List.not_mem_nil, List.nodup_nil⟩, fun x hx y hy heq => ?_⟩
  rw [List.mem_singleton] at hy
  exact ha (hy ▸ heq ▸ hx)

/-- **Both records of ownership agree.** -/
structure Consistent (b : Board) : Prop where
  ids : (b.containers.map (·.id)).Nodup
  /-- Cards are stored under their own identifiers. -/
  key : ∀ x c, b.card? x = some c → c.id = x
  /-- Every card names a container on the board. -/
  home : ∀ x c, b.card? x = some c → c.container ∈ b.containers.map (·.id)
  nodup : ∀ k ∈ b.containers, k.cards.Nodup
  mem_iff : ∀ k ∈ b.containers, ∀ x, x ∈ k.cards ↔ b.owns k.id x = true

namespace Consistent

theorem empty : Board.empty.Consistent :=
  ⟨List.nodup_nil, fun _ _ h => (by cases h), fun _ _ h => (by cases h), fun _ h => (by cases h),
    fun _ h => (by cases h)⟩

/-- Containers that keep their identifiers and places. -/
theorem of_map (h : b.Consistent) {f : Container → Container} (hf : ∀ k, (f k).id = k.id)
    (hb : b'.containers = b.containers.map f) (hkey : ∀ x c, b'.card? x = some c → c.id = x)
    (hhome : ∀ x c, b'.card? x = some c → c.container ∈ b.containers.map (·.id))
    (hnodup : ∀ k ∈ b.containers, (f k).cards.Nodup)
    (hmem : ∀ k ∈ b.containers, ∀ x, x ∈ (f k).cards ↔ b'.owns k.id x = true) : b'.Consistent := by
  have hids : b'.containers.map (·.id) = b.containers.map (·.id) := by
    rw [hb, List.map_map]
    exact List.map_congr_left fun k _ => hf k
  refine ⟨hids ▸ h.ids, hkey, fun x c hx => hids ▸ hhome x c hx, ?_, ?_⟩
  · rw [hb]
    intro k hk
    obtain ⟨k', hk', rfl⟩ := List.mem_map.mp hk
    exact hnodup k' hk'
  · rw [hb]
    intro k hk x
    obtain ⟨k', hk', rfl⟩ := List.mem_map.mp hk
    rw [hf]
    exact hmem k' hk' x

/-! ## Every operation -/

theorem addContainer {id : String} {droppable : Bool} (h : b.Consistent)
    (hb : b.addContainer id droppable = .ok b') : b'.Consistent := by
  obtain ⟨hfresh, rfl⟩ := addContainer_eq_ok.mp hb
  have hid : id ∉ b.containers.map (·.id) := by
    intro hmem
    rw [← container?_isSome, hfresh] at hmem
    cases hmem
  refine ⟨?_, h.key, ?_, ?_, ?_⟩
  · rw [List.map_append]
    exact nodup_snoc h.ids hid
  · intro x c hx
    rw [List.map_append]
    exact List.mem_append_left _ (h.home x c hx)
  · intro k hk
    rcases List.mem_append.mp hk with hk | hk
    · exact h.nodup k hk
    · rw [List.mem_singleton] at hk
      rw [hk]
      exact List.nodup_nil
  · intro k hk x
    rcases List.mem_append.mp hk with hk | hk
    · exact h.mem_iff k hk x
    · rw [List.mem_singleton] at hk
      subst hk
      refine ⟨fun hx => (by cases hx), fun hx => ?_⟩
      obtain ⟨c, hc, hcontainer⟩ := owns_iff.mp hx
      -- A card that named the new container would name one that was on the board before.
      have hhome := h.home x c hc
      rw [hcontainer] at hhome
      exact absurd hhome hid

theorem addCard {container id : String} {issue : Payload} {width : Float} (h : b.Consistent)
    (hb : b.addCard container id issue width = .ok b') : b'.Consistent := by
  have hcard := card?_addCard hb
  obtain ⟨hfresh, hsome, hb'⟩ := addCard_eq_ok.mp hb
  have hnew : ∀ k ∈ b.containers, id ∉ k.cards := by
    intro k hk hmem
    obtain ⟨c, hc, _⟩ := owns_iff.mp ((h.mem_iff k hk id).mp hmem)
    rw [hfresh] at hc
    cases hc
  have hcontainers : b'.containers = b.containers.map fun k =>
      if k.id = container then { k with cards := k.cards ++ [id] } else k := by
    rw [hb', updateFirst_eq_map h.ids]
  refine of_map h (fun k => by split <;> rfl) hcontainers ?_ ?_ ?_ ?_
  · intro x c hx
    rw [hcard] at hx
    by_cases hid : x = id
    · rw [if_pos hid] at hx
      cases hx
      exact hid.symm
    · rw [if_neg hid] at hx
      exact h.key x c hx
  · intro x c hx
    rw [hcard] at hx
    by_cases hid : x = id
    · rw [if_pos hid] at hx
      cases hx
      exact container?_isSome.mp hsome
    · rw [if_neg hid] at hx
      exact h.home x c hx
  · intro k hk
    split
    · exact nodup_snoc (h.nodup k hk) (hnew k hk)
    · exact h.nodup k hk
  · intro k hk x
    have howns : b'.owns k.id x = true ↔ (x = id ∧ k.id = container) ∨ b.owns k.id x = true := by
      rw [owns_iff, owns_iff, hcard]
      by_cases hid : x = id
      · rw [if_pos hid, hid, hfresh]
        simp [eq_comm]
      · simp [hid]
    rw [howns, ← h.mem_iff k hk x]
    split
    · simp_all [or_comm]
    · simp_all

theorem setDroppable {container : String} {droppable : Bool} (h : b.Consistent)
    (hb : b.setDroppable container droppable = .ok b') : b'.Consistent := by
  obtain ⟨_, rfl⟩ := setDroppable_eq_ok.mp hb
  refine of_map h (f := fun k => if k.id = container then { k with droppable } else k)
    (fun k => by split <;> rfl) (updateFirst_eq_map h.ids) h.key h.home ?_ ?_
  · intro k hk
    have := h.nodup k hk
    split <;> exact this
  · intro k hk x
    have hmem := h.mem_iff k hk x
    split <;> exact hmem

theorem setDragging (h : b.Consistent) (card : String) (d : Bool) : (b.setDragging card d).Consistent := by
  have hchanges := changes_setDragging b card d
  refine ⟨h.ids, ?_, ?_, h.nodup, ?_⟩
  · intro x c hx
    obtain ⟨c', hc', rfl | rfl⟩ := hchanges.before hx
    · exact h.key x c hc'
    · exact h.key x c' hc'
  · intro x c hx
    obtain ⟨c', hc', rfl | rfl⟩ := hchanges.before hx
    · exact h.home x c hc'
    · exact h.home x c' hc'
  · intro k hk x
    rw [owns_setDragging]
    exact h.mem_iff k hk x

/-- Where identifiers differ, a transfer takes the card out of one list and appends it to another one. -/
theorem transferred_containers (h : b.Consistent) {source target : String} (hne : source ≠ target)
    (card : String) :
    (b.transferred card source target).containers = b.containers.map fun k =>
      if k.id = target then { k with cards := k.cards ++ [card] }
      else if k.id = source then { k with cards := k.cards.filter (· ≠ card) } else k := by
  unfold Board.transferred
  dsimp only
  rw [updateFirst_eq_map, updateFirst_eq_map h.ids, List.map_map]
  · refine List.map_congr_left fun k _ => ?_
    by_cases hs : k.id = source
    · simp [hs, hne]
    · by_cases ht : k.id = target
      · simp [ht, Ne.symm hne]
      · simp [hs, ht]
  · rw [updateFirst_ids]
    · exact h.ids
    · intro k
      rfl

/-- A card that leaves one container for another. -/
theorem transferred {card target : String} {c : Card} (h : b.Consistent) (hc : b.card? card = some c)
    (hne : c.container ≠ target) (ht : target ∈ b.containers.map (·.id)) :
    (b.transferred card c.container target).Consistent := by
  have hchanges := changes_transferred b card c.container target
  refine of_map h ?_ (transferred_containers h hne card) ?_ ?_ ?_ ?_
  · intro k
    by_cases htarget : k.id = target
    · rw [if_pos htarget]
    · rw [if_neg htarget]
      split <;> rfl
  · intro x c' hx
    obtain ⟨c'', hc'', rfl | rfl⟩ := hchanges.before hx
    · exact h.key x c' hc''
    · exact h.key x c'' hc''
  · intro x c' hx
    obtain ⟨c'', hc'', rfl | rfl⟩ := hchanges.before hx
    · exact h.home x c' hc''
    · exact ht
  · intro k hk
    have hnodup := h.nodup k hk
    by_cases htarget : k.id = target
    · -- The card was in the list of another container, so it is new to this one.
      rw [if_pos htarget]
      refine nodup_snoc hnodup fun hmem => ?_
      obtain ⟨c', hc', hhome⟩ := owns_iff.mp ((h.mem_iff k hk card).mp hmem)
      rw [hc] at hc'
      cases hc'
      exact hne (hhome.trans htarget)
    · rw [if_neg htarget]
      split
      · exact hnodup.sublist List.filter_sublist
      · exact hnodup
  · intro k hk x
    have howns : (b.transferred card c.container target).owns k.id x = true ↔
        if x = card then k.id = target else b.owns k.id x = true := by
      rw [owns_iff, card?_transferred]
      by_cases hid : x = card
      · rw [if_pos hid, if_pos hid, hid, hc]
        simp [eq_comm]
      · rw [if_neg hid, if_neg hid, owns_iff]
    have hmem : card ∈ k.cards ↔ k.id = c.container := by
      rw [h.mem_iff k hk, owns_iff, hc]
      simp [eq_comm]
    rw [howns, ← h.mem_iff k hk x]
    -- Both records change for the card that moves, in the two containers of the move, and nowhere else.
    by_cases hid : x = card
    · rw [if_pos hid, hid]
      by_cases htarget : k.id = target
      · simp [htarget]
      · rw [if_neg htarget]
        split
        · simp [htarget]
        · simp_all
    · rw [if_neg hid]
      by_cases htarget : k.id = target
      · simp [htarget, hid]
      · rw [if_neg htarget]
        split
        · simp [hid]
        · rfl

/-! ## The list that a card is in -/

theorem exists_container {x : String} {c : Card} (h : b.Consistent) (hc : b.card? x = some c) :
    ∃ k ∈ b.containers, k.id = c.container ∧ x ∈ k.cards := by
  obtain ⟨k, hk, hid⟩ := List.mem_map.mp (h.home x c hc)
  exact ⟨k, hk, hid, (h.mem_iff k hk x).mpr (owns_iff.mpr ⟨c, hc, hid.symm⟩)⟩

/-- A card is in the list of its own container only. -/
theorem container_of_mem {x : String} {c : Card} {k : Container} (h : b.Consistent)
    (hc : b.card? x = some c) (hk : k ∈ b.containers) (hx : x ∈ k.cards) : k.id = c.container := by
  obtain ⟨c', hc', hid⟩ := owns_iff.mp ((h.mem_iff k hk x).mp hx)
  rw [hc] at hc'
  cases hc'
  exact hid.symm

end Consistent
end Kanban.Board
