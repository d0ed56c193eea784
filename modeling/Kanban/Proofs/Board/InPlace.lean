import Kanban.Proofs.Board.Operations

/-!
# `Proofs.Board.InPlace` — operations in place happen as a whole or not at all

An operation on a board in place looks things up between its changes, so it might stop halfway. None does.
What is looked up after a change was there before it, and no change takes a container away. That needs no
order on the board: it holds with containers of the same identifier, with cards that name no container, and
with cards in lists that they do not name.

## Contents
- `Board.whole`, `inPlace_whole`: every operation in place comes to what it is without its steps.
- `attempt_eq`: the board that an operation leaves behind; `Board.attempts`: several of them.
- `Board.index?`, `getElem?_transferred`: the containers after a move, each at its place.
- `attempt_all_or_nothing`: what a refused operation and a move leave as it was.
-/

namespace Kanban.Board

variable {b : Board}

/-- What an operation in place comes to that happens as a whole or not at all. -/
def whole (b : Board) : Except Fault Board → EStateM.Result Fault Board Unit
  | .ok b' => .ok () b'
  | .error fault => .error fault b

namespace InPlace

/-! ## Steps -/

@[simp] theorem run_throw {α : Type} (fault : Fault) (b : Board) :
    (throw fault : InPlace α).run b = .error fault b := rfl

theorem container_of_some {id : String} {k : Container} (h : b.container? id = some k) :
    (container id).run b = .ok k b := by
  simp [container, h]

theorem container_of_none {id : String} (h : b.container? id = none) :
    (container id).run b = .error (.unknownContainer id) b := by
  simp [container, h]

/-- A container that is there is changed. -/
theorem change_of_isSome {id : String} (h : (b.container? id).isSome = true) (f : Container → Container) :
    (change id f).run b = .ok () (b.updateContainer id f) := by
  obtain ⟨k, hk⟩ := Option.isSome_iff_exists.mp h
  simp [change, container_of_some hk]

theorem change_of_none {id : String} (h : b.container? id = none) (f : Container → Container) :
    (change id f).run b = .error (.unknownContainer id) b := by
  simp [change, container_of_none h]

/-- **No look-up fails because of a change before it,** as long as containers keep their identifiers. -/
theorem isSome_updateContainer {id : String} {f : Container → Container} (hf : ∀ k, (f k).id = k.id)
    (b : Board) (other : String) :
    ((b.updateContainer id f).container? other).isSome = (b.container? other).isSome := by
  have hids : (b.updateContainer id f).containers.map (·.id) = b.containers.map (·.id) :=
    updateFirst_ids hf b.containers
  rw [Bool.eq_iff_iff, container?_isSome, container?_isSome, hids]

/-! ## Operations -/

theorem addContainer_whole (b : Board) (id : String) (droppable : Bool) :
    (addContainer id droppable).run b = b.whole (b.addContainer id droppable) := by
  unfold Board.addContainer
  cases h : b.container? id with
  | none => simp [addContainer, h, whole]
  | some k => simp [addContainer, h, whole]

theorem addCard_whole (b : Board) (container id : String) (issue : Payload) (width : Float) :
    (addCard container id issue width).run b = b.whole (b.addCard container id issue width) := by
  cases hc : b.card? id with
  | some c =>
    have hcontains : b.cards.contains id = true := by rw [contains_cards, hc]; rfl
    simp [addCard, Board.addCard, hcontains, whole]
  | none =>
    have hcontains : b.cards.contains id = false := by rw [contains_cards, hc]; rfl
    cases hk : b.container? container with
    | none =>
      have hrefused : b.addCard container id issue width = .error (.unknownContainer container) := by
        simp [Board.addCard, hcontains, findContainer_of_none hk, bind, Except.bind]
      rw [hrefused]
      simp [addCard, hcontains, change_of_none hk, whole]
    | some k =>
      have hthere : (b.container? container).isSome = true := Option.isSome_of_eq_some hk
      rw [addCard_eq_ok.mpr ⟨hc, hthere, rfl⟩]
      simp only [addCard, EStateM.run_bind, EStateM.run_get, hcontains, Bool.false_eq_true, if_false,
        change_of_isSome hthere]
      rfl

theorem setDroppable_whole (b : Board) (container : String) (droppable : Bool) :
    (setDroppable container droppable).run b = b.whole (b.setDroppable container droppable) := by
  cases hk : b.container? container with
  | none =>
    rw [setDroppable_of_none hk]
    exact change_of_none hk _
  | some k =>
    have hthere : (b.container? container).isSome = true := Option.isSome_of_eq_some hk
    rw [setDroppable_eq_ok.mpr ⟨hthere, rfl⟩]
    exact change_of_isSome hthere _

/-- A move looks up its target before it changes anything. Once the card is out of its old list, the target is
    looked up again, and it is still there. -/
theorem transfer_whole (b : Board) (card target : String) :
    (transfer card target).run b = b.whole (b.transfer card target) := by
  cases hc : b.card? card with
  | none =>
    rw [transfer_of_none hc]
    simp [transfer, hc, whole]
  | some c =>
    by_cases hsame : c.container = target
    · rw [transfer_same hc hsame]
      simp [transfer, hc, hsame, whole]
    · cases ht : b.container? target with
      | none =>
        rw [transfer_to_nowhere hc hsame ht]
        simp [transfer, hc, hsame, container_of_none ht, whole]
      | some k =>
        cases hs : b.container? c.container with
        | none =>
          rw [transfer_from_nowhere hc hsame ht hs]
          simp [transfer, hc, hsame, container_of_some ht, change_of_none hs, whole]
        | some k' =>
          have htarget : (b.container? target).isSome = true := Option.isSome_of_eq_some ht
          have hsource : (b.container? c.container).isSome = true := Option.isSome_of_eq_some hs
          have hstill :
              ((b.updateContainer c.container (without card)).container? target).isSome = true := by
            rw [isSome_updateContainer (without_id card), htarget]
          rw [transfer_other hc hsame htarget hsource]
          simp only [transfer, EStateM.run_bind, EStateM.run_get, hc, if_neg hsame, container_of_some ht,
            change_of_isSome hsource, change_of_isSome hstill]
          rfl

end InPlace

/-- **Every operation in place** happens as a whole or not at all. -/
theorem inPlace_whole (b : Board) (e : Edit) : e.inPlace.run b = b.whole (b.apply e) := by
  cases e with
  | addContainer id droppable => exact InPlace.addContainer_whole b id droppable
  | addCard container id issue width => exact InPlace.addCard_whole b container id issue width
  | transfer card target => exact InPlace.transfer_whole b card target
  | setDroppable container droppable => exact InPlace.setDroppable_whole b container droppable
  | load document =>
    cases h : Board.load document <;> simp [Edit.inPlace, apply, h, whole]

theorem attempt_eq (b : Board) (e : Edit) :
    b.attempt e =
      match b.apply e with
      | .ok b' => (b', .ok ())
      | .error fault => (b, .error fault) := by
  rw [attempt, inPlace_whole]
  cases b.apply e <;> rfl

/-- Whether an operation replaces the whole board. -/
def Edit.replaces : Edit → Bool
  | .load _ => true
  | _ => false

/-- The board after several operations, each of which may be refused. -/
def attempts (b : Board) (edits : List Edit) : Board := edits.foldl (fun b e => (b.attempt e).1) b

@[simp] theorem attempts_nil (b : Board) : b.attempts [] = b := rfl

@[simp] theorem attempts_cons (b : Board) (e : Edit) (edits : List Edit) :
    b.attempts (e :: edits) = (b.attempt e).1.attempts edits := rfl

theorem attempts_append (b : Board) (edits edits' : List Edit) :
    b.attempts (edits ++ edits') = (b.attempts edits).attempts edits' :=
  List.foldl_append

/-! ## The containers after a move -/

/-- Where the first container with an identifier stands. -/
def index? (b : Board) (id : String) : Option Nat := b.containers.findIdx? (·.id = id)

theorem getElem?_updateFirst (id : String) (f : Container → Container) (l : List Container) (i : Nat) :
    (updateFirst id f l)[i]? = if l.findIdx? (·.id = id) = some i then l[i]?.map f else l[i]? := by
  induction l generalizing i with
  | nil => simp [updateFirst]
  | cons k rest ih =>
    rw [updateFirst, List.findIdx?_cons]
    by_cases h : k.id = id
    · cases i with
      | zero => simp [h]
      | succ i => simp [h]
    · cases i with
      | zero => simp [h]
      | succ i => simp [h, ih]

/-- Containers that keep their identifiers keep their places. -/
theorem findIdx?_updateFirst {id : String} {f : Container → Container} (hf : ∀ k, (f k).id = k.id)
    (l : List Container) (other : String) :
    (updateFirst id f l).findIdx? (·.id = other) = l.findIdx? (·.id = other) := by
  have hids : ∀ m : List Container, m.findIdx? (·.id = other) = (m.map (·.id)).findIdx? (· = other) := by
    intro m
    rw [List.findIdx?_map]
    rfl
  rw [hids, hids, updateFirst_ids hf]

theorem index?_id {id : String} {i : Nat} {k : Container} (h : b.index? id = some i)
    (hk : b.containers[i]? = some k) : k.id = id := by
  obtain ⟨hi, hid, _⟩ := List.findIdx?_eq_some_iff_getElem.mp h
  rw [List.getElem?_eq_getElem hi] at hk
  cases hk
  simpa using hid

/-- **A move changes two containers,** the first one with the old identifier and the first one with the new
    one. -/
theorem getElem?_transferred {source target : String} (hne : source ≠ target) (card : String) {i : Nat}
    {k : Container} (hk : b.containers[i]? = some k) :
    (b.transferred card source target).containers[i]? =
      some (if b.index? target = some i then plus card k
        else if b.index? source = some i then without card k else k) := by
  rw [transferred_containers_eq, getElem?_updateFirst, findIdx?_updateFirst (without_id card),
    getElem?_updateFirst, hk]
  by_cases ht : b.index? target = some i
  · have hs : b.index? source ≠ some i := by
      intro hs
      exact hne ((index?_id hs hk).symm.trans (index?_id ht hk))
    rw [if_pos (by exact ht), if_neg (by exact hs), if_pos ht]
    rfl
  · rw [if_neg (by exact ht), if_neg ht]
    by_cases hs : b.index? source = some i
    · rw [if_pos (by exact hs), if_pos hs]
      rfl
    · rw [if_neg (by exact hs), if_neg hs]

/-- One container before and after the move of a card: only the place of that card may differ. -/
structure SameButFor (card : String) (k k' : Container) : Prop where
  id : k'.id = k.id
  droppable : k'.droppable = k.droppable
  /-- All other cards are there as often as before, and in the same order. -/
  others : k'.cards.filter (· ≠ card) = k.cards.filter (· ≠ card)

theorem SameButFor.refl (card : String) (k : Container) : SameButFor card k k := ⟨rfl, rfl, rfl⟩

theorem sameButFor_plus (card : String) (k : Container) : SameButFor card k (plus card k) :=
  ⟨rfl, rfl, by simp [plus]⟩

theorem sameButFor_without (card : String) (k : Container) : SameButFor card k (without card k) :=
  ⟨rfl, rfl, by simp [without]⟩

/-! ## All or nothing -/

/-- **Operations happen as a whole or not at all,** on any board whatsoever.
    - An operation that is refused leaves the board exactly as it was.
    - After a move that succeeds the card names the target, and no other card has changed. No container has
      changed but the first one with the old identifier and the first one with that of the target, and those
      two have kept all other cards in their order. -/
theorem attempt_all_or_nothing (b : Board) :
    (∀ e fault, (b.attempt e).2 = .error fault → (b.attempt e).1 = b) ∧
    ∀ card target, (b.attempt (.transfer card target)).2 = .ok () →
      let b' := (b.attempt (.transfer card target)).1
      ∃ c, b.card? card = some c ∧ b'.card? card = some { c with container := target } ∧
        (∀ y, y ≠ card → b'.card? y = b.card? y) ∧
        b'.containers.length = b.containers.length ∧
        ∀ i k, b.containers[i]? = some k → ∃ k', b'.containers[i]? = some k' ∧ SameButFor card k k' ∧
          (k' ≠ k → b.index? c.container = some i ∨ b.index? target = some i) := by
  constructor
  · intro e fault h
    rw [attempt_eq] at h ⊢
    cases happly : b.apply e with
    | error fault' => rfl
    | ok b' => rw [happly] at h; cases h
  · intro card target h b'
    have hb' : b.transfer card target = .ok b' := by
      show b.apply (.transfer card target) = .ok (b.attempt (.transfer card target)).1
      rw [attempt_eq] at h ⊢
      cases happly : b.apply (.transfer card target) with
      | error fault => rw [happly] at h; cases h
      | ok after => rfl
    generalize b' = b' at hb' ⊢
    obtain ⟨c, hc, _⟩ := transfer_eq_ok hb'
    refine ⟨c, hc, ?_⟩
    by_cases hsame : c.container = target
    · -- A card that is there already stays where it is.
      rw [transfer_same hc hsame] at hb'
      cases hb'
      refine ⟨by rw [hc, ← hsame], fun y _ => rfl, rfl, fun i k hk => ?_⟩
      exact ⟨k, hk, .refl card k, fun hne => absurd rfl hne⟩
    · obtain ⟨_, _, rfl⟩ := (transfer_other_eq_ok hc hsame).mp hb'
      refine ⟨?_, ?_, ?_, ?_⟩
      · rw [card?_transferred, if_pos rfl, hc]
        rfl
      · intro y hy
        rw [card?_transferred, if_neg hy]
      · have hids := congrArg List.length (transferred_ids b card c.container target)
        rwa [List.length_map, List.length_map] at hids
      · intro i k hk
        refine ⟨_, getElem?_transferred hsame card hk, ?_, ?_⟩
        · split
          · exact sameButFor_plus card k
          · split
            · exact sameButFor_without card k
            · exact .refl card k
        · intro hne
          by_cases ht : b.index? target = some i
          · exact Or.inr ht
          · by_cases hs : b.index? c.container = some i
            · exact Or.inl hs
            · rw [if_neg ht, if_neg hs] at hne
              exact absurd rfl hne

/-- A board on which nothing is in order: two containers of one identifier, a card in lists that it does not
    name, under a key that is not its identifier, and a card that names no container. -/
def tangled : Board where
  containers :=
    [⟨"todo", ["c1", "c2", "c1", "c3"], true⟩, ⟨"todo", ["c1", "c3"], true⟩, ⟨"done", ["c1", "c4"], false⟩]
  cards := Dict.ofList [("c1", ⟨"c9", .null, "todo", 100, true⟩), ("c2", ⟨"c2", .null, "archive", 100, false⟩)]

/-- There, too, a move is refused that cannot take the card out of its old container, although the new one is
    there; and a move that succeeds leaves the second container of the identifier alone. -/
theorem attempt_all_or_nothing_tangled :
    (tangled.attempt (.transfer "c2" "done")).2 = .error (.unknownContainer "archive") ∧
      (tangled.attempt (.transfer "c2" "done")).1 = tangled ∧
      (tangled.attempt (.transfer "c1" "done")).2 = .ok () ∧
      (∃ c : Card, (tangled.attempt (.transfer "c1" "done")).1.card? "c1" = some { c with container := "done" }) ∧
      (tangled.attempt (.transfer "c1" "done")).1.containers[1]? = some ⟨"todo", ["c1", "c3"], true⟩ := by
  obtain ⟨hrefused, hmoved⟩ := attempt_all_or_nothing tangled
  have hfault : (tangled.attempt (.transfer "c2" "done")).2 = .error (.unknownContainer "archive") := by
    rfl
  have hdone : (tangled.attempt (.transfer "c1" "done")).2 = .ok () := by
    rfl
  obtain ⟨c, hc, hc', _, _, hcontainers⟩ := hmoved "c1" "done" hdone
  obtain ⟨k, hk, _, hchanged⟩ := hcontainers 1 ⟨"todo", ["c1", "c3"], true⟩ rfl
  have hhome : c.container = "todo" := by
    have htodo : (tangled.card? "c1").map (·.container) = some "todo" := by decide +kernel
    rw [hc] at htodo
    exact Option.some.inj htodo
  have hfirst : tangled.index? "todo" ≠ some 1 ∧ tangled.index? "done" ≠ some 1 := by decide +kernel
  refine ⟨hfault, hrefused _ _ hfault, hdone, ⟨c, hc'⟩, ?_⟩
  by_cases hsame : k = ⟨"todo", ["c1", "c3"], true⟩
  · rw [hk, hsame]
  · rcases hchanged hsame with hindex | hindex
    · rw [hhome] at hindex
      exact absurd hindex hfirst.1
    · exact absurd hindex hfirst.2

end Kanban.Board
