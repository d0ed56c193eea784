import Mathlib.Logic.Function.Conjugate
import Kanban.Proofs.Board.InPlace
import Kanban.Proofs.Dict

/-!
# `Proofs.Board.Independence` — moves of two cards, in either order

A move reads little: what the card says itself, and which containers there are. A move of another card changes
neither of them. So both moves come to the same in either order, whatever else the board is like. Only the end
of a list tells which of two cards came first.

## Contents
- `Board.leaves`, `Board.relocated`, `attempt_transfer`: a move in two parts, where from and what then.
- `leaves_attempt`: the move of another card changes nothing about where a card leaves from.
- `relist`, `relist_commute`: what a move does to the lists; `updateFirst_commute`: two changes of lists.
- `exists_split`: two arrivals in one container.
- `moves_independent`: both orders.
-/

namespace Kanban.Board

variable {b : Board} {x y : String}

/-! ## A move in two parts -/

/-- The container that a card leaves for a target: none if it is there already. -/
def leaves (b : Board) (card target : String) : Except Fault (Option String) :=
  match (b.card? card).map (·.container) with
  | none => .error (.unknownCard card)
  | some source =>
    if source = target then .ok none
    else if target ∉ b.containers.map (·.id) then .error (.unknownContainer target)
    else if source ∉ b.containers.map (·.id) then .error (.unknownContainer source)
    else .ok (some source)

/-- The board once a card has left a container for a target, if it leaves any. -/
def relocated (b : Board) (card target : String) : Except Fault (Option String) → Board
  | .ok (some source) => b.transferred card source target
  | _ => b

theorem transfer_eq_leaves (b : Board) (card target : String) :
    b.transfer card target = (b.leaves card target).map fun source => b.relocated card target (.ok source) := by
  unfold leaves
  cases hc : b.card? card with
  | none => rw [transfer_of_none hc]; rfl
  | some c =>
    rw [Option.map_some]
    dsimp only
    by_cases hsame : c.container = target
    · rw [transfer_same hc hsame, if_pos hsame]
      rfl
    · rw [if_neg hsame]
      by_cases ht : target ∈ b.containers.map (·.id)
      · rw [if_neg (not_not_intro ht)]
        obtain ⟨k, hk⟩ := Option.isSome_iff_exists.mp (container?_isSome.mpr ht)
        by_cases hs : c.container ∈ b.containers.map (·.id)
        · rw [if_neg (not_not_intro hs),
            transfer_other hc hsame (container?_isSome.mpr ht) (container?_isSome.mpr hs)]
          rfl
        · rw [if_pos hs, transfer_from_nowhere hc hsame hk (container?_eq_none_iff.mpr hs)]
          rfl
      · rw [if_pos ht, transfer_to_nowhere hc hsame (container?_eq_none_iff.mpr ht)]
        rfl

/-- **A move** is refused as its first part is, and otherwise comes to what its second part does. -/
theorem attempt_transfer (b : Board) (card target : String) :
    b.attempt (.transfer card target) =
      (b.relocated card target (b.leaves card target), (b.leaves card target).map fun _ => ()) := by
  rw [attempt_eq, show b.apply (.transfer card target) = b.transfer card target from rfl, transfer_eq_leaves]
  cases b.leaves card target with
  | error fault => rfl
  | ok source => cases source <;> rfl

/-! ## Where a card leaves from -/

theorem leaves_congr {b' : Board} (hcard : b'.card? x = b.card? x)
    (hids : b'.containers.map (·.id) = b.containers.map (·.id)) (target : String) :
    b'.leaves x target = b.leaves x target := by
  rw [leaves, leaves, hcard, hids]

theorem leaves_transferred (hxy : x ≠ y) (b : Board) (source target other : String) :
    (b.transferred y source target).leaves x other = b.leaves x other :=
  leaves_congr (by rw [card?_transferred, if_neg hxy]) (transferred_ids b y source target) other

/-- **The move of another card** changes nothing about where a card leaves from. -/
theorem leaves_attempt (hxy : x ≠ y) (b : Board) (target other : String) :
    (b.attempt (.transfer y target)).1.leaves x other = b.leaves x other := by
  rw [attempt_transfer]
  rcases b.leaves y target with fault | _ | source
  · rfl
  · rfl
  · exact leaves_transferred hxy b source target other

/-! ## Two changes of lists -/

theorem updateFirst_of_eq {id : String} {k : Container} (h : k.id = id) (f : Container → Container)
    (rest : List Container) : updateFirst id f (k :: rest) = f k :: rest := by
  rw [updateFirst, if_pos h]

theorem updateFirst_of_ne {id : String} {k : Container} (h : k.id ≠ id) (f : Container → Container)
    (rest : List Container) : updateFirst id f (k :: rest) = k :: updateFirst id f rest := by
  rw [updateFirst, if_neg h]

/-- Changes of two containers do not get in each other's way, nor do changes of one that commute. -/
theorem updateFirst_commute {id id' : String} {f g : Container → Container} (hf : ∀ k, (f k).id = k.id)
    (hg : ∀ k, (g k).id = k.id) (h : id = id' → Function.Commute f g) :
    Function.Commute (updateFirst id f) (updateFirst id' g) := by
  intro l
  induction l with
  | nil => rfl
  | cons k rest ih =>
    by_cases hk : k.id = id
    · by_cases hk' : k.id = id'
      · have hcomm : f (g k) = g (f k) := h (hk.symm.trans hk') k
        rw [updateFirst_of_eq hk', updateFirst_of_eq hk, updateFirst_of_eq ((hg k).trans hk),
          updateFirst_of_eq ((hf k).trans hk'), hcomm]
      · have hfk : (f k).id ≠ id' := fun heq => hk' ((hf k).symm.trans heq)
        rw [updateFirst_of_ne hk', updateFirst_of_eq hk, updateFirst_of_eq hk, updateFirst_of_ne hfk]
    · by_cases hk' : k.id = id'
      · have hgk : (g k).id ≠ id := fun heq => hk ((hg k).symm.trans heq)
        rw [updateFirst_of_eq hk', updateFirst_of_ne hk, updateFirst_of_eq hk', updateFirst_of_ne hgk]
      · rw [updateFirst_of_ne hk', updateFirst_of_ne hk, updateFirst_of_ne hk, updateFirst_of_ne hk', ih]

/-- Two changes of one container. -/
theorem updateFirst_updateFirst {id : String} {g : Container → Container} (hg : ∀ k, (g k).id = k.id)
    (f : Container → Container) (l : List Container) :
    updateFirst id f (updateFirst id g l) = updateFirst id (f ∘ g) l := by
  induction l with
  | nil => rfl
  | cons k rest ih =>
    by_cases hk : k.id = id
    · rw [updateFirst_of_eq hk, updateFirst_of_eq hk, updateFirst_of_eq ((hg k).trans hk)]
      rfl
    · rw [updateFirst_of_ne hk, updateFirst_of_ne hk, updateFirst_of_ne hk, ih]

theorem without_commute (x y : String) : Function.Commute (without x) (without y) := by
  intro k
  simp [without, List.filter_filter, Bool.and_comm]

/-- Whether a card comes before or after another one has left makes no difference. -/
theorem plus_without_commute (hxy : x ≠ y) : Function.Commute (plus x) (without y) := by
  intro k
  simp [plus, without, hxy]

/-- What a move does to the lists of all containers. -/
def relist (card source target : String) : List Container → List Container :=
  updateFirst target (plus card) ∘ updateFirst source (without card)

/-- **Moves of two cards to two containers** do the same to the lists in either order. -/
theorem relist_commute (hxy : x ≠ y) {s t : String} (hst : s ≠ t) (source source' : String) :
    Function.Commute (relist x source s) (relist y source' t) := by
  have hcome : Function.Commute (updateFirst s (plus x)) (updateFirst t (plus y)) :=
    updateFirst_commute (plus_id x) (plus_id y) fun heq => absurd heq hst
  have hcomeLeave : Function.Commute (updateFirst s (plus x)) (updateFirst source' (without y)) :=
    updateFirst_commute (plus_id x) (without_id y) fun _ => plus_without_commute hxy
  have hleaveCome : Function.Commute (updateFirst source (without x)) (updateFirst t (plus y)) :=
    updateFirst_commute (without_id x) (plus_id y) fun _ => (plus_without_commute hxy.symm).symm
  have hleave : Function.Commute (updateFirst source (without x)) (updateFirst source' (without y)) :=
    updateFirst_commute (without_id x) (without_id y) fun _ => without_commute x y
  exact (hcome.comp_right hcomeLeave).comp_left (hleaveCome.comp_right hleave)

/-- Moves of two cards to one container: both have left before the one comes after the other. -/
theorem relist_relist (hxy : x ≠ y) (source source' s : String) (l : List Container) :
    relist y source' s (relist x source s l) =
      updateFirst s (plus y ∘ plus x) (updateFirst source' (without y) (updateFirst source (without x) l)) := by
  have hcomm : Function.Commute (updateFirst source' (without y)) (updateFirst s (plus x)) :=
    updateFirst_commute (without_id y) (plus_id x) fun _ => (plus_without_commute hxy).symm
  show updateFirst s (plus y) (updateFirst source' (without y)
    (updateFirst s (plus x) (updateFirst source (without x) l))) = _
  rw [hcomm, updateFirst_updateFirst (plus_id x)]

/-- The first container with an identifier, between those before it and those after it. -/
theorem exists_split {id : String} {l : List Container} (h : id ∈ l.map (·.id)) :
    ∃ before k after, id ∉ before.map (·.id) ∧ k.id = id ∧
      ∀ f, updateFirst id f l = before ++ f k :: after := by
  induction l with
  | nil => cases h
  | cons k rest ih =>
    by_cases hk : k.id = id
    · exact ⟨[], k, rest, List.not_mem_nil, hk, fun f => updateFirst_of_eq hk f rest⟩
    · have hrest : id ∈ rest.map (·.id) := by
        rw [List.map_cons] at h
        exact (List.mem_cons.mp h).resolve_left (Ne.symm hk)
      obtain ⟨before, k', after, hbefore, hk', hsplit⟩ := ih hrest
      refine ⟨k :: before, k', after, ?_, hk', fun f => ?_⟩
      · rw [List.map_cons, List.mem_cons, not_or]
        exact ⟨Ne.symm hk, hbefore⟩
      · rw [updateFirst_of_ne hk, hsplit]
        rfl

/-! ## Two moves -/

theorem transferred_cards_comm (hxy : x ≠ y) (b : Board) (source source' s t : String) :
    ((b.transferred x source s).transferred y source' t).cards =
      ((b.transferred y source' t).transferred x source s).cards :=
  Dict.modify_comm hxy (fun c : Card => { c with container := s }) (fun c => { c with container := t }) b.cards

/-- To two containers. -/
theorem transferred_comm (hxy : x ≠ y) {s t : String} (hst : s ≠ t) (b : Board) (source source' : String) :
    (b.transferred x source s).transferred y source' t =
      (b.transferred y source' t).transferred x source s := by
  have hlists : relist y source' t (relist x source s b.containers) =
      relist x source s (relist y source' t b.containers) :=
    (relist_commute hxy hst source source' b.containers).symm
  exact congrArg₂ Board.mk hlists (transferred_cards_comm hxy b source source' s t)

/-- One board or the other, according to which of two cards came to the end of a list first. -/
def EndsApart (target x y : String) (b b' : Board) : Prop :=
  ∃ (before : List Container) (k : Container) (after : List Container) (cards : Dict Card),
    target ∉ before.map (·.id) ∧ k.id = target ∧
    b = ⟨before ++ { k with cards := k.cards ++ [x, y] } :: after, cards⟩ ∧
    b' = ⟨before ++ { k with cards := k.cards ++ [y, x] } :: after, cards⟩

/-- To one container. -/
theorem transferred_endsApart (hxy : x ≠ y) {s : String} (hs : s ∈ b.containers.map (·.id))
    (source source' : String) :
    EndsApart s x y ((b.transferred x source s).transferred y source' s)
      ((b.transferred y source' s).transferred x source s) := by
  let left : List Container := updateFirst source' (without y) (updateFirst source (without x) b.containers)
  have hleft : updateFirst source (without x) (updateFirst source' (without y) b.containers) = left :=
    updateFirst_commute (without_id x) (without_id y) (fun _ => without_commute x y) b.containers
  have hids : left.map (·.id) = b.containers.map (·.id) := by
    rw [updateFirst_ids (without_id y), updateFirst_ids (without_id x)]
  obtain ⟨before, k, after, hbefore, hk, hsplit⟩ := exists_split (hids ▸ hs)
  have hplus : ∀ first second : String,
      (plus second ∘ plus first) k = { k with cards := k.cards ++ [first, second] } := by
    intro first second
    simp [plus]
  have hlists : relist y source' s (relist x source s b.containers) =
      before ++ { k with cards := k.cards ++ [x, y] } :: after := by
    rw [relist_relist hxy, hsplit, hplus]
  have hlists' : relist x source s (relist y source' s b.containers) =
      before ++ { k with cards := k.cards ++ [y, x] } :: after := by
    rw [relist_relist hxy.symm, hleft, hsplit, hplus]
  exact ⟨before, k, after, _, hbefore, hk, congrArg₂ Board.mk hlists rfl,
    congrArg₂ Board.mk hlists' (transferred_cards_comm hxy.symm b source' source s s)⟩

/-- Who leaves a container goes to one that is there. -/
theorem target_of_leaves {card target source : String} (h : b.leaves card target = .ok (some source)) :
    target ∈ b.containers.map (·.id) := by
  unfold leaves at h
  cases hc : (b.card? card).map (·.container) with
  | none => rw [hc] at h; cases h
  | some source' =>
    rw [hc] at h
    dsimp only at h
    by_cases hsame : source' = target
    · rw [if_pos hsame] at h
      cases h
    · rw [if_neg hsame] at h
      by_contra ht
      rw [if_pos ht] at h
      cases h

/-- **Moves of two cards are independent,** on any board whatsoever.
    - Whether a move succeeds, and for what reason it is refused, does not depend on which one is first.
    - Moves to two containers leave the same board behind in either order.
    - So do moves to one container, except that the list of that container ends with the two cards in the order
      in which they came, if both came. -/
theorem moves_independent (b : Board) {x y : String} (hxy : x ≠ y) (s t : String) :
    let first := b.attempt (.transfer x s)
    let second := first.1.attempt (.transfer y t)
    let first' := b.attempt (.transfer y t)
    let second' := first'.1.attempt (.transfer x s)
    (first.2 = second'.2 ∧ second.2 = first'.2) ∧
      (s ≠ t → second.1 = second'.1) ∧
      (s = t → second.1 = second'.1 ∨ EndsApart s x y second.1 second'.1) := by
  intro first second first' second'
  have hx : first'.1.leaves x s = b.leaves x s := leaves_attempt hxy b t s
  have hy : first.1.leaves y t = b.leaves y t := leaves_attempt hxy.symm b s t
  have hsecond : second = ((b.relocated x s (b.leaves x s)).relocated y t (b.leaves y t),
      (b.leaves y t).map fun _ => ()) := by
    rw [show second = _ from attempt_transfer first.1 y t, hy,
      show first.1 = _ from congrArg Prod.fst (attempt_transfer b x s)]
  have hsecond' : second' = ((b.relocated y t (b.leaves y t)).relocated x s (b.leaves x s),
      (b.leaves x s).map fun _ => ()) := by
    rw [show second' = _ from attempt_transfer first'.1 x s, hx,
      show first'.1 = _ from congrArg Prod.fst (attempt_transfer b y t)]
  have hfirst : first.2 = (b.leaves x s).map fun _ => () := by
    rw [show first = _ from attempt_transfer b x s]
  have hfirst' : first'.2 = (b.leaves y t).map fun _ => () := by
    rw [show first' = _ from attempt_transfer b y t]
  rw [hsecond, hsecond', hfirst, hfirst']
  refine ⟨⟨rfl, rfl⟩, ?_⟩
  dsimp only
  -- Only if both cards leave a container do the two moves have to do with each other at all.
  cases hleave : b.leaves x s with
  | error fault => exact ⟨fun _ => rfl, fun _ => Or.inl rfl⟩
  | ok source =>
    cases source with
    | none => exact ⟨fun _ => rfl, fun _ => Or.inl rfl⟩
    | some source =>
      cases hleave' : b.leaves y t with
      | error fault => exact ⟨fun _ => rfl, fun _ => Or.inl rfl⟩
      | ok source' =>
        cases source' with
        | none => exact ⟨fun _ => rfl, fun _ => Or.inl rfl⟩
        | some source' =>
          constructor
          · intro hst
            exact transferred_comm hxy hst b source source'
          · rintro rfl
            exact Or.inr (transferred_endsApart hxy (target_of_leaves hleave) source source')

/-- Two cards in lists that they do not name, and two containers of one identifier. -/
def crossed : Board where
  containers :=
    [⟨"todo", ["c1", "c2", "c1"], true⟩, ⟨"done", ["c2"], true⟩, ⟨"todo", ["c2"], true⟩, ⟨"late", [], false⟩]
  cards := Dict.ofList [("c1", ⟨"c1", .null, "todo", 100, false⟩), ("c2", ⟨"c2", .null, "done", 100, false⟩)]

/-- Each of the cards goes where the other one comes from, and the order does not matter. Where both go to one
    container, it shows which of them was first. -/
theorem moves_independent_crossed :
    let there := (crossed.attempt (.transfer "c1" "done")).1.attempt (.transfer "c2" "todo")
    let there' := (crossed.attempt (.transfer "c2" "todo")).1.attempt (.transfer "c1" "done")
    let late := (crossed.attempt (.transfer "c1" "late")).1.attempt (.transfer "c2" "late")
    let late' := (crossed.attempt (.transfer "c2" "late")).1.attempt (.transfer "c1" "late")
    "c1" ≠ "c2" ∧ "done" ≠ "todo" ∧ there.2 = .ok () ∧ there.1 = there'.1 ∧
      there.1.containers.map (·.cards) = [["c2", "c2"], ["c1"], ["c2"], []] ∧
      EndsApart "late" "c1" "c2" late.1 late'.1 := by
  intro there there' late late'
  have hcards : "c1" ≠ "c2" := by decide
  have hdone : "done" ≠ "todo" := by decide
  obtain ⟨-, hthere, -⟩ := moves_independent crossed hcards "done" "todo"
  obtain ⟨-, -, hlate⟩ := moves_independent crossed hcards "late" "late"
  have hlists : there.1.containers.map (·.cards) = [["c2", "c2"], ["c1"], ["c2"], []] := by
    decide +kernel
  have hapart : late.1.containers ≠ late'.1.containers := by
    decide +kernel
  refine ⟨hcards, hdone, rfl, hthere hdone, hlists, (hlate rfl).resolve_left fun hsame => ?_⟩
  exact hapart (congrArg Board.containers hsame)

end Kanban.Board
