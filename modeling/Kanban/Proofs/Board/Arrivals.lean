import Mathlib.Data.List.Dedup
import Kanban.Proofs.Board.Consistent
import Kanban.Proofs.Board.InPlace

/-!
# `Proofs.Board.Arrivals` — the lists of a board as a history of arrivals

Whatever is done to a board from the empty one on, with success or without, its containers are those that
were created, in that order, and the list of each is the cards that name it, in the order in which they
arrived last. A card arrives when it is added and when it comes over from another container.

## Contents
- `Board.Operation`, `Board.performed`, `Board.made`: operations as data, refused ones included.
- `Edit.operation?`, `attempts_eq_performed`: operations in place that load no board.
- `Board.creation`, `Board.arrival`, `Board.history`: what an operation creates, and which card it brings.
- `dedup_snoc`: a further arrival puts a card at the end.
- `Board.Follows` and `follows_performed`: a board beside its two histories, over one operation.
- `made_follows_arrivals`: the representation over whole runs.
-/

namespace Kanban.Board

/-! ## Operations and what they bring about -/

/-- An operation on a board that is there, with its arguments: an edit that loads no other board, or a mark. -/
inductive Operation where
  | addContainer (id : String) (droppable : Bool)
  | addCard (container id : String) (issue : Payload) (width : Float)
  | transfer (card target : String)
  | setDroppable (container : String) (droppable : Bool)
  | setDragging (card : String) (dragging : Bool)

/-- The board after an operation, or why it is refused. -/
def perform (b : Board) : Operation → Except Fault Board
  | .addContainer id droppable => b.addContainer id droppable
  | .addCard container id issue width => b.addCard container id issue width
  | .transfer card target => b.transfer card target
  | .setDroppable container droppable => b.setDroppable container droppable
  | .setDragging card dragging => .ok (b.setDragging card dragging)

/-- The board that an operation leaves behind. A refused one changes nothing. -/
def performed (b : Board) (op : Operation) : Board :=
  match b.perform op with
  | .ok b' => b'
  | .error _ => b

/-- The board that several operations make of the empty one. -/
def made (ops : List Operation) : Board := ops.foldl performed empty

/-- The operation that an edit is, unless it puts another board in the place of this one. -/
def Edit.operation? : Edit → Option Operation
  | .addContainer id droppable => some (.addContainer id droppable)
  | .addCard container id issue width => some (.addCard container id issue width)
  | .transfer card target => some (.transfer card target)
  | .setDroppable container droppable => some (.setDroppable container droppable)
  | .load _ => none

theorem operation?_isSome (e : Edit) : e.operation?.isSome = !e.replaces := by
  cases e <;> rfl

/-- As an edit, an operation is refused for the same reason, or it comes to the same board. -/
theorem perform_of_operation? {e : Edit} {op : Operation} (h : e.operation? = some op) (b : Board) :
    b.perform op = b.apply e := by
  cases e <;> cases h <;> rfl

/-- What an edit in place leaves behind is what the operation leaves behind. -/
theorem performed_of_operation? {e : Edit} {op : Operation} (h : e.operation? = some op) (b : Board) :
    b.performed op = (b.attempt e).1 := by
  rw [performed, perform_of_operation? h, attempt_eq]
  cases b.apply e <;> rfl

/-- **Edits in place that load no board** are operations one after another. -/
theorem attempts_eq_performed {edits : List Edit} (h : ∀ e ∈ edits, e.replaces = false) (b : Board) :
    b.attempts edits = (edits.filterMap Edit.operation?).foldl performed b := by
  induction edits generalizing b with
  | nil => rfl
  | cons e rest ih =>
    obtain ⟨he, hrest⟩ := List.forall_mem_cons.mp h
    obtain ⟨op, hop⟩ : ∃ op, e.operation? = some op := by
      rw [← Option.isSome_iff_exists, operation?_isSome, he]
      rfl
    rw [attempts_cons, List.filterMap_cons_some hop, List.foldl_cons, performed_of_operation? hop]
    exact ih hrest (b.attempt e).1

/-- The container that an operation creates, if it succeeds. -/
def creation (b : Board) (op : Operation) : Option String :=
  match op, b.perform op with
  | .addContainer id _, .ok _ => some id
  | _, _ => none

/-- The card that an operation brings into a container, if it succeeds: a new one, or one that was in
    another container. -/
def arrival (b : Board) (op : Operation) : Option String :=
  match op, b.perform op with
  | .addCard _ id _ _, .ok _ => some id
  | .transfer card target, .ok _ => if b.owns target card then none else some card
  | _, _ => none

/-- What several operations bring about one after another. -/
def history {α : Type} (event : Board → Operation → Option α) (b : Board) : List Operation → List α
  | [] => []
  | op :: ops => (event b op).toList ++ history event (b.performed op) ops

/-- The containers created by several operations on the empty board, in order. -/
def creations (ops : List Operation) : List String := history creation empty ops

/-- The arrivals of cards by several operations on the empty board, in order. A card that comes several
    times is there several times. -/
def arrivals (ops : List Operation) : List String := history arrival empty ops

/-! ## One more arrival -/

/-- Of equal entries only the latest one counts, so a further entry goes to the end. -/
theorem dedup_snoc {α : Type} [DecidableEq α] (l : List α) (a : α) :
    (l ++ [a]).dedup = l.dedup.filter (· ≠ a) ++ [a] := by
  induction l with
  | nil => simp
  | cons x rest ih =>
    rw [List.cons_append]
    by_cases hx : x ∈ rest
    · rw [List.dedup_cons_of_mem (List.mem_append_left _ hx), List.dedup_cons_of_mem hx, ih]
    · rw [List.dedup_cons_of_notMem hx, List.filter_cons]
      by_cases hxa : x = a
      · rw [if_neg (by simpa using hxa), List.dedup_cons_of_mem (by simp [hxa]), ih]
      · have hmem : x ∉ rest ++ [a] := by simp [hx, hxa]
        rw [if_pos (by simpa using hxa), List.dedup_cons_of_notMem hmem, ih, List.cons_append]

/-- Whoever is in no list leaves none. -/
theorem filter_ne_of_not_mem {a : String} {l : List String} (h : a ∉ l) : l.filter (· ≠ a) = l := by
  refine List.filter_eq_self.mpr fun x hx => ?_
  by_cases hxa : x = a
  · exact absurd (hxa ▸ hx) h
  · simpa using hxa

variable {b b' : Board} {created arrived : List String} {a : String}

/-- **The order of a container after one more arrival.** Where the arrival changes the owner of one card only,
    that card leaves its place, and it takes the last one in the container that it names now. -/
theorem arrived_order {p q : String → Bool} (h : ∀ x, x ≠ a → q x = p x) :
    (arrived ++ [a]).dedup.filter q =
      (arrived.dedup.filter p).filter (· ≠ a) ++ if q a then [a] else [] := by
  have hrest : (arrived.dedup.filter (· ≠ a)).filter q = (arrived.dedup.filter p).filter (· ≠ a) := by
    rw [List.filter_filter, List.filter_filter]
    refine List.filter_congr fun x _ => ?_
    by_cases hx : x = a
    · simp [hx]
    · rw [h x hx, Bool.and_comm]
  rw [dedup_snoc, List.filter_append, hrest, List.filter_singleton]
  cases q a <;> rfl

/-! ## A board beside its histories -/

/-- A board beside the containers created and the cards arrived so far. -/
structure Follows (b : Board) (created arrived : List String) : Prop where
  consistent : b.Consistent
  ids : b.containers.map (·.id) = created
  order : ∀ k ∈ b.containers, k.cards = arrived.dedup.filter (b.owns k.id)

theorem follows_empty : Follows empty [] [] := ⟨.empty, rfl, fun _ h => (by cases h)⟩

/-- Neither a container nor a card is new, and no card has another owner. -/
theorem Follows.of_kept {f : Container → Container} (h : Follows b created arrived) (hb : b'.Consistent)
    (hf : ∀ k, (f k).id = k.id ∧ (f k).cards = k.cards) (hcontainers : b'.containers = b.containers.map f)
    (howns : b'.owns = b.owns) : Follows b' created arrived := by
  refine ⟨hb, ?_, ?_⟩
  · rw [hcontainers, List.map_map, ← h.ids]
    exact List.map_congr_left fun k _ => (hf k).1
  · rw [hcontainers, howns]
    intro k hk
    obtain ⟨k', hk', rfl⟩ := List.mem_map.mp hk
    rw [(hf k').1, (hf k').2]
    exact h.order k' hk'

/-- A card arrives: it leaves the list that it was in, if any, and is the last one in the list of the
    container that it names now. -/
theorem Follows.of_arrival {f : Container → Container} (h : Follows b created arrived) (hb : b'.Consistent)
    (hid : ∀ k, (f k).id = k.id) (hcontainers : b'.containers = b.containers.map f)
    (howns : ∀ k ∈ b.containers, ∀ x, x ≠ a → b'.owns k.id x = b.owns k.id x)
    (hcards : ∀ k ∈ b.containers,
      (f k).cards = k.cards.filter (· ≠ a) ++ if b'.owns k.id a then [a] else []) :
    Follows b' created (arrived ++ [a]) := by
  refine ⟨hb, ?_, ?_⟩
  · rw [hcontainers, List.map_map, ← h.ids]
    exact List.map_congr_left fun k _ => hid k
  · rw [hcontainers]
    intro k hk
    obtain ⟨k', hk', rfl⟩ := List.mem_map.mp hk
    rw [hid, hcards k' hk', h.order k' hk', arrived_order (howns k' hk')]

/-! ## Every operation -/

/-- A container that is new has an empty list, since no card can name it yet. -/
theorem Follows.addContainer {id : String} {droppable : Bool} (h : Follows b created arrived)
    (hb : b.addContainer id droppable = .ok b') : Follows b' (created ++ [id]) arrived := by
  have hconsistent := h.consistent.addContainer hb
  obtain ⟨hfresh, rfl⟩ := addContainer_eq_ok.mp hb
  refine ⟨hconsistent, ?_, ?_⟩
  · rw [List.map_append, h.ids]
    rfl
  · intro k hk
    rcases List.mem_append.mp hk with hk | hk
    · exact h.order k hk
    · rw [List.mem_singleton] at hk
      subst hk
      refine (List.filter_eq_nil_iff.mpr fun x _ hx => ?_).symm
      have hmem := (hconsistent.mem_iff _ (List.mem_append_right _ List.mem_cons_self) x).mpr hx
      cases hmem

theorem Follows.addCard {container id : String} {issue : Payload} {width : Float}
    (h : Follows b created arrived) (hb : b.addCard container id issue width = .ok b') :
    Follows b' created (arrived ++ [id]) := by
  have hcard := card?_addCard hb
  obtain ⟨hfresh, _, hb'⟩ := addCard_eq_ok.mp hb
  refine h.of_arrival (h.consistent.addCard hb)
    (f := fun k => if k.id = container then { k with cards := k.cards ++ [id] } else k)
    (fun k => by split <;> rfl) (by rw [hb', updateFirst_eq_map h.consistent.ids]) ?_ ?_
  · intro k _ x hx
    unfold owns
    rw [hcard, if_neg hx]
  · intro k hk
    -- The card is in no list yet, so no list loses it.
    have hnew : k.cards.filter (· ≠ id) = k.cards := by
      apply filter_ne_of_not_mem
      intro hmem
      obtain ⟨c, hc, _⟩ := owns_iff.mp ((h.consistent.mem_iff k hk id).mp hmem)
      rw [hfresh] at hc
      cases hc
    have howns : b'.owns k.id id = decide (container = k.id) := by
      unfold owns
      rw [hcard, if_pos rfl]
    rw [hnew, howns]
    by_cases hk : k.id = container
    · simp [hk]
    · simp [hk, Ne.symm hk]

theorem Follows.transferred {card target : String} {c : Card} (h : Follows b created arrived)
    (hc : b.card? card = some c) (hne : c.container ≠ target) (ht : target ∈ b.containers.map (·.id)) :
    Follows (b.transferred card c.container target) created (arrived ++ [card]) := by
  refine h.of_arrival (h.consistent.transferred hc hne ht) ?_
    (h.consistent.transferred_containers hne card) ?_ ?_
  · intro k
    by_cases htarget : k.id = target
    · rw [if_pos htarget]
    · rw [if_neg htarget]
      split <;> rfl
  · intro k _ x hx
    unfold owns
    rw [card?_transferred, if_neg hx]
  · intro k hk
    have howns : (b.transferred card c.container target).owns k.id card = decide (target = k.id) := by
      unfold owns
      rw [card?_transferred, if_pos rfl, hc]
      rfl
    have hmem : card ∈ k.cards ↔ c.container = k.id := by
      rw [h.consistent.mem_iff k hk, owns_iff, hc]
      simp
    -- Only the list of the container that the card comes from loses it.
    have hother : k.id ≠ c.container → k.cards.filter (· ≠ card) = k.cards := by
      intro hsource
      exact filter_ne_of_not_mem fun hcard => hsource (hmem.mp hcard).symm
    rw [howns]
    by_cases htarget : k.id = target
    · rw [if_pos htarget, hother (fun hsource => hne (hsource.symm.trans htarget))]
      simp [htarget]
    · rw [if_neg htarget]
      by_cases hsource : k.id = c.container
      · simp [hsource, Ne.symm hne]
      · rw [if_neg hsource, hother hsource]
        simp [Ne.symm htarget]

theorem Follows.setDroppable {container : String} {droppable : Bool} (h : Follows b created arrived)
    (hb : b.setDroppable container droppable = .ok b') : Follows b' created arrived := by
  have hconsistent := h.consistent.setDroppable hb
  obtain ⟨_, rfl⟩ := setDroppable_eq_ok.mp hb
  exact h.of_kept hconsistent (f := fun k => if k.id = container then { k with droppable } else k)
    (fun k => by split <;> exact ⟨rfl, rfl⟩) (updateFirst_eq_map h.consistent.ids) rfl

theorem Follows.setDragging (h : Follows b created arrived) (card : String) (dragging : Bool) :
    Follows (b.setDragging card dragging) created arrived := by
  refine ⟨h.consistent.setDragging card dragging, h.ids, fun k hk => ?_⟩
  rw [h.order k hk]
  exact List.filter_congr fun x _ => (owns_setDragging b card dragging k.id x).symm

/-- A move that succeeds brings the card over, unless the card was there before. -/
theorem Follows.transfer {card target : String} (h : Follows b created arrived)
    (hb : b.transfer card target = .ok b') :
    Follows b' created (arrived ++ (if b.owns target card then none else some card).toList) := by
  cases hc : b.card? card with
  | none => rw [transfer_of_none hc] at hb; cases hb
  | some c =>
    by_cases hsame : c.container = target
    · have howns : b.owns target card = true := owns_iff.mpr ⟨c, hc, hsame⟩
      rw [transfer_same hc hsame] at hb
      cases hb
      simpa [howns] using h
    · have howns : b.owns target card = false := by
        simpa [owns, hc] using hsame
      obtain ⟨ht, _, rfl⟩ := (transfer_other_eq_ok hc hsame).mp hb
      rw [howns]
      exact h.transferred hc hsame (container?_isSome.mp ht)

/-- **One operation,** whether it succeeds or not. -/
theorem follows_performed (h : Follows b created arrived) (op : Operation) :
    Follows (b.performed op) (created ++ (b.creation op).toList) (arrived ++ (b.arrival op).toList) := by
  unfold performed creation arrival
  cases hb : b.perform op with
  | error fault => simpa using h
  | ok b' =>
    cases op with
    | addContainer id droppable => simpa using h.addContainer hb
    | addCard container id issue width => simpa using h.addCard hb
    | transfer card target => simpa using h.transfer hb
    | setDroppable container droppable => simpa using h.setDroppable hb
    | setDragging card dragging =>
      cases hb
      simpa using h.setDragging card dragging

/-- **A whole run.** -/
theorem follows_foldl (h : Follows b created arrived) (ops : List Operation) :
    Follows (ops.foldl performed b) (created ++ history creation b ops)
      (arrived ++ history arrival b ops) := by
  induction ops generalizing b created arrived with
  | nil => simpa [history] using h
  | cons op rest ih =>
    rw [List.foldl_cons, history, history, ← List.append_assoc, ← List.append_assoc]
    exact ih (follows_performed h op)

/-! ## The representation -/

/-- In a history of arrivals, a card has arrived since another one came for the last time. -/
def ArrivedSince (arrived : List String) (x y : String) : Prop :=
  ∃ before after, arrived = before ++ x :: after ∧ x ∉ after ∧ y ∈ after

theorem pairwise_dedup (arrived : List String) : arrived.dedup.Pairwise (ArrivedSince arrived) := by
  induction arrived with
  | nil => exact List.Pairwise.nil
  | cons a rest ih =>
    have hlater : rest.dedup.Pairwise (ArrivedSince (a :: rest)) := by
      refine ih.imp ?_
      rintro x y ⟨before, after, hsplit, hx, hy⟩
      exact ⟨a :: before, after, by rw [hsplit, List.cons_append], hx, hy⟩
    by_cases ha : a ∈ rest
    · rwa [List.dedup_cons_of_mem ha]
    · rw [List.dedup_cons_of_notMem ha]
      exact List.Pairwise.cons (fun y hy => ⟨[], rest, rfl, ha, List.mem_dedup.mp hy⟩) hlater

/-- **A board is the history of its arrivals.** After any operations on the empty board, refused ones
    included, the containers are those that were created, in order. Every card is stored under its own
    identifier and names a container. The list of a container is exactly the cards that name it, each once,
    in the order in which they arrived last, and no card is in two lists. To move a card to where it is
    changes nothing and is no arrival. -/
theorem made_follows_arrivals (ops : List Operation) :
    let b := made ops
    (b.containers.map (·.id) = creations ops ∧ (creations ops).Nodup) ∧
      (∀ x c, b.card? x = some c → c.id = x ∧ ∃ k ∈ b.containers, k.id = c.container) ∧
      (∀ k ∈ b.containers,
        k.cards = (arrivals ops).dedup.filter (b.owns k.id) ∧
          (∀ x, x ∈ k.cards ↔ ∃ c, b.card? x = some c ∧ c.container = k.id) ∧ k.cards.Nodup ∧
          k.cards.Pairwise (ArrivedSince (arrivals ops))) ∧
      (∀ k ∈ b.containers, ∀ k' ∈ b.containers, ∀ x, x ∈ k.cards → x ∈ k'.cards → k = k') ∧
      ∀ card target, b.owns target card = true →
        b.perform (.transfer card target) = .ok b ∧ b.arrival (.transfer card target) = none := by
  intro b
  have h : Follows b (creations ops) (arrivals ops) := follows_foldl follows_empty ops
  refine ⟨⟨h.ids, h.ids ▸ h.consistent.ids⟩, ?_, ?_, ?_, ?_⟩
  · intro x c hx
    obtain ⟨k, hk, hid, _⟩ := h.consistent.exists_container hx
    exact ⟨h.consistent.key x c hx, k, hk, hid⟩
  · intro k hk
    refine ⟨h.order k hk, fun x => (h.consistent.mem_iff k hk x).trans owns_iff, h.consistent.nodup k hk, ?_⟩
    rw [h.order k hk]
    exact (pairwise_dedup (arrivals ops)).filter _
  · intro k hk k' hk' x hx hx'
    obtain ⟨c, hc, hid⟩ := owns_iff.mp ((h.consistent.mem_iff k hk x).mp hx)
    have hid' : k'.id = c.container := h.consistent.container_of_mem hc hk' hx'
    exact List.inj_on_of_nodup_map h.consistent.ids hk hk' (hid.symm.trans hid'.symm)
  · intro card target howns
    obtain ⟨c, hc, hsame⟩ := owns_iff.mp howns
    have htransfer : b.perform (.transfer card target) = .ok b := transfer_same hc hsame
    refine ⟨htransfer, ?_⟩
    unfold arrival
    rw [htransfer]
    simp [howns]

/-- A card that comes back is the last one in its list again. -/
example : ((made [.addContainer "todo" true, .addContainer "done" true, .addCard "todo" "c1" .null 1,
    .addCard "todo" "c2" .null 1, .transfer "c1" "done", .transfer "c2" "todo",
    .transfer "c1" "todo"]).containers.map (·.cards)) = [["c2", "c1"], []] := by decide +kernel

end Kanban.Board
