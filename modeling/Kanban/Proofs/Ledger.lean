import Mathlib.Data.Finset.Lattice.Fold
import Mathlib.Data.Finset.Range
import Mathlib.Data.List.Induction
import Mathlib.Tactic.Ring
import Kanban.Activity.Ledger
import Kanban.Proofs.Dict

/-!
# `Proofs.Ledger` — what a family of members reads

Members that were duplicated from one another share a counter: they are a family. A unit that is given back
when the count is zero is given back for nothing, so what a family reads depends on the order of its steps and
not on their numbers alone. It is the balance of the family above the lowest one that it has ever had.

## Contents
- `Ledger.increments`, `decrements`, `taken`, `dropped`: what a step does to a family; `ignored`: what it
  gives back for nothing; `total`: numbers of several steps.
- `Sound`, `sound_step`: members and guards belong to counters that are there.
- `count_step`, `ignored_step`, `live_step`: one step.
- `balance`, `lowest`, `Accounted`, `accounted_run`: a whole run.
- `count_above_lowest`: what every member reads.
-/

namespace Kanban.Ledger

/-! ## What a step does to a family -/

/-- How many units a step adds to a family by a plain increment. -/
def increments (family : Nat) (l : Ledger) : Step → Nat
  | .increment m => if l.members[m]? = some family then 1 else 0
  | _ => 0

/-- How many units a step gives back to a family by a plain decrement. -/
def decrements (family : Nat) (l : Ledger) : Step → Nat
  | .decrement m => if l.members[m]? = some family then 1 else 0
  | _ => 0

/-- How many guards of a family a step takes. -/
def taken (family : Nat) (l : Ledger) : Step → Nat
  | .guard _ m => if l.members[m]? = some family then 1 else 0
  | _ => 0

/-- How many guards of a family a step drops: by itself, or because another guard takes its name. -/
def dropped (family : Nat) (l : Ledger) : Step → Nat
  | .drop name => if l.guards.get? name = some family then 1 else 0
  | .guard name m => if (l.members[m]?).isSome ∧ l.guards.get? name = some family then 1 else 0
  | _ => 0

/-- What a family reads. -/
def count (l : Ledger) (family : Nat) : Nat := (l.counters.getD family Activity.idle).count

/-- How many units a step gives back to a family that reads zero at that moment. A guard is replaced when the
    new one has been taken. -/
def ignored (family : Nat) (l : Ledger) : Step → Nat
  | .decrement m => if l.members[m]? = some family ∧ l.count family = 0 then 1 else 0
  | .drop name => if l.guards.get? name = some family ∧ l.count family = 0 then 1 else 0
  | .guard name m =>
    match l.members[m]? with
    | some k =>
      if l.guards.get? name = some family ∧ (l.update k Activity.increment).count family = 0 then 1 else 0
    | none => 0
  | _ => 0

/-- How many guards of a family there are. -/
def live (l : Ledger) (family : Nat) : Nat := l.guards.countValues (· = family)

/-- The numbers that several steps have, each at its moment, added up. -/
def total (number : Ledger → Step → Nat) (l : Ledger) : List Step → Nat
  | [] => 0
  | s :: rest => number l s + total number (l.step s) rest

variable {l : Ledger}

theorem run_snoc (l : Ledger) (steps : List Step) (s : Step) :
    l.run (steps ++ [s]) = (l.run steps).step s := by
  rw [run, List.foldl_append]
  rfl

theorem total_snoc (number : Ledger → Step → Nat) (l : Ledger) (steps : List Step) (s : Step) :
    total number l (steps ++ [s]) = total number l steps + number (l.run steps) s := by
  induction steps generalizing l with
  | nil => exact (Nat.zero_add _).symm
  | cons first rest ih =>
    rw [List.cons_append, total, total, ih, Nat.add_assoc]
    rfl

/-! ## Members and guards -/

/-- Members and guards belong to counters that are there. -/
structure Sound (l : Ledger) : Prop where
  members : ∀ k ∈ l.members, k < l.counters.length
  guards : ∀ name k, l.guards.get? name = some k → k < l.counters.length

@[simp] theorem update_members (l : Ledger) (k : Nat) (f : Activity → Activity) :
    (l.update k f).members = l.members := rfl
@[simp] theorem update_guards (l : Ledger) (k : Nat) (f : Activity → Activity) :
    (l.update k f).guards = l.guards := rfl
@[simp] theorem update_length (l : Ledger) (k : Nat) (f : Activity → Activity) :
    (l.update k f).counters.length = l.counters.length := List.length_modify ..

theorem Sound.member {m k : Nat} (h : l.Sound) (hm : l.members[m]? = some k) : k < l.counters.length :=
  h.members k (List.mem_of_getElem? hm)

theorem Sound.update (h : l.Sound) (k : Nat) (f : Activity → Activity) : (l.update k f).Sound :=
  ⟨fun j hj => by simpa using h.members j hj, fun name j hj => by simpa using h.guards name j hj⟩

theorem release_of_none {name : String} (h : l.guards.get? name = none) : l.release name = l := by
  rw [release, h]

theorem release_of_some {name : String} {k : Nat} (h : l.guards.get? name = some k) :
    l.release name = { l.update k Activity.decrement with guards := l.guards.erase name } := by
  rw [release, h]

theorem release_guards (l : Ledger) (name : String) : (l.release name).guards = l.guards.erase name := by
  cases h : l.guards.get? name with
  | none =>
    rw [release_of_none h]
    refine Dict.ext_get? fun j => ?_
    rw [Dict.get?_erase]
    by_cases hj : j = name
    · rw [if_pos hj, hj, h]
    · rw [if_neg hj]
  | some k => rw [release_of_some h]

theorem Sound.release (h : l.Sound) (name : String) : (l.release name).Sound := by
  cases hg : l.guards.get? name with
  | none => rwa [release_of_none hg]
  | some k =>
    rw [release_of_some hg]
    refine ⟨(h.update k _).members, fun other j hj => ?_⟩
    have hj' : (l.guards.erase name).get? other = some j := hj
    rw [Dict.get?_erase] at hj'
    by_cases ho : other = name
    · rw [if_pos ho] at hj'
      cases hj'
    · rw [if_neg ho] at hj'
      simpa using h.guards other j hj'

theorem release_length (l : Ledger) (name : String) :
    (l.release name).counters.length = l.counters.length := by
  cases hg : l.guards.get? name with
  | none => rw [release_of_none hg]
  | some k =>
    rw [release_of_some hg]
    exact update_length l k _

theorem onMember_of_some {m k : Nat} (h : l.members[m]? = some k) (f : Nat → Ledger) :
    l.onMember m f = f k := by
  rw [onMember, h]

theorem onMember_of_none {m : Nat} (h : l.members[m]? = none) (f : Nat → Ledger) : l.onMember m f = l := by
  rw [onMember, h]

/-- What holds of a ledger and of what becomes of it through any member holds after a step on a member. -/
theorem onMember_keeps {P : Ledger → Prop} {m : Nat} {f : Nat → Ledger} (h : P l)
    (hf : ∀ k, l.members[m]? = some k → P (f k)) : P (l.onMember m f) := by
  cases hm : l.members[m]? with
  | none => rwa [onMember_of_none hm]
  | some k =>
    rw [onMember_of_some hm]
    exact hf k hm

/-- **One step** keeps members and guards at counters that are there. -/
theorem sound_step (h : l.Sound) (s : Step) : (l.step s).Sound := by
  cases s with
  | increment m | decrement m => exact onMember_keeps h fun k _ => h.update k _
  | drop name => exact h.release name
  | guard name m =>
    refine onMember_keeps h fun k hm => ?_
    have htaken : ((l.update k Activity.increment).release name).Sound := (h.update k _).release name
    refine ⟨htaken.members, fun other j hj => ?_⟩
    have hj' : (((l.update k Activity.increment).release name).guards.insert name k).get? other =
        some j := hj
    rw [Dict.get?_insert] at hj'
    by_cases ho : other = name
    · rw [if_pos ho] at hj'
      cases hj'
      show k < ((l.update k Activity.increment).release name).counters.length
      rw [release_length, update_length]
      exact h.member hm
    · rw [if_neg ho] at hj'
      exact htaken.guards other j hj'
  | duplicate m =>
    refine onMember_keeps h fun k hm => ⟨fun j hj => ?_, h.guards⟩
    rcases List.mem_append.mp hj with hj | hj
    · exact h.members j hj
    · rw [List.mem_singleton.mp hj]
      exact h.member hm
  | create =>
    constructor
    · intro j hj
      simp only [step, List.length_append, List.length_singleton]
      rcases List.mem_append.mp hj with hj | hj
      · exact Nat.lt_succ_of_lt (h.members j hj)
      · rw [List.mem_singleton.mp hj]
        exact Nat.lt_succ_self _
    · intro name j hj
      simp only [step, List.length_append, List.length_singleton]
      exact Nat.lt_succ_of_lt (h.guards name j hj)

theorem sound_initial : initial.Sound := by
  refine ⟨fun k hk => ?_, fun name k hk => by cases hk⟩
  rw [List.mem_singleton.mp hk]
  exact Nat.one_pos

theorem sound_run (h : l.Sound) (steps : List Step) : (l.run steps).Sound := by
  induction steps generalizing l with
  | nil => exact h
  | cons s rest ih => exact ih (sound_step h s)

/-! ## One step -/

theorem count_update {k : Nat} (h : k < l.counters.length) (f : Activity → Activity) (family : Nat) :
    (l.update k f).count family =
      if family = k then (f ⟨l.count family⟩).count else l.count family := by
  unfold count update
  rw [List.getD_eq_getElem?_getD, List.getD_eq_getElem?_getD, List.getElem?_modify]
  by_cases hk : family = k
  · subst hk
    simp [List.getElem?_eq_getElem h]
  · rw [if_neg hk]
    cases l.counters[family]? <;> simp [Ne.symm hk]

theorem count_increment {k : Nat} (h : k < l.counters.length) (family : Nat) :
    (l.update k Activity.increment).count family = l.count family + if some k = some family then 1 else 0 := by
  rw [count_update h]
  by_cases hk : family = k
  · rw [if_pos hk, if_pos (by rw [hk])]
    rfl
  · rw [if_neg hk, if_neg (by simpa using Ne.symm hk), Nat.add_zero]

theorem count_decrement {k : Nat} (h : k < l.counters.length) (family : Nat) :
    (l.update k Activity.decrement).count family = l.count family - if some k = some family then 1 else 0 := by
  rw [count_update h]
  by_cases hk : family = k
  · rw [if_pos hk, if_pos (by rw [hk])]
    rfl
  · rw [if_neg hk, if_neg (by simpa using Ne.symm hk), Nat.sub_zero]

theorem count_release (h : l.Sound) (name : String) (family : Nat) :
    (l.release name).count family =
      l.count family - if l.guards.get? name = some family then 1 else 0 := by
  cases hg : l.guards.get? name with
  | none =>
    rw [release_of_none hg]
    rfl
  | some k =>
    rw [release_of_some hg]
    exact count_decrement (h.guards name k hg) family

/-- A step on a member whose counter is another one, or that is not there, is no step on a family. -/
theorem count_onMember {m : Nat} {f : Nat → Ledger} {n : Nat} (family : Nat)
    (hnone : l.members[m]? = none → n = l.count family)
    (hsome : ∀ k, l.members[m]? = some k → (f k).count family = n) :
    (l.onMember m f).count family = n := by
  cases hm : l.members[m]? with
  | none => rw [onMember_of_none hm, hnone hm]
  | some k => rw [onMember_of_some hm, hsome k hm]

theorem count_replace (h : l.Sound) {m k : Nat} (hm : l.members[m]? = some k) (name : String)
    (family : Nat) :
    ((l.update k Activity.increment).release name).count family =
      (l.count family + if some k = some family then 1 else 0) -
        if l.guards.get? name = some family then 1 else 0 := by
  rw [count_release (h.update k _), count_increment (h.member hm)]
  rfl

/-- A new counter reads what a counter that is not there reads. -/
theorem count_create (l : Ledger) (family : Nat) : (l.step .create).count family = l.count family := by
  show ((l.counters ++ [Activity.idle]).getD family Activity.idle).count = l.count family
  unfold count
  rw [List.getD_eq_getElem?_getD, List.getD_eq_getElem?_getD, List.getElem?_append]
  by_cases hf : family < l.counters.length
  · rw [if_pos hf]
  · rw [if_neg hf, List.getElem?_eq_none (Nat.le_of_not_lt hf)]
    cases family - l.counters.length <;> rfl

/-- **One step** adds to a family what it takes, and then gives back what there is to give back. -/
theorem count_step (h : l.Sound) (family : Nat) (s : Step) :
    (l.step s).count family =
      l.count family + (increments family l s + taken family l s) -
        (decrements family l s + dropped family l s) := by
  cases s with
  | increment m =>
    refine count_onMember family (fun hm => ?_) fun k hm => ?_
    · simp [increments, taken, decrements, dropped, hm]
    · rw [count_increment (h.member hm)]
      simp [increments, taken, decrements, dropped, hm]
  | decrement m =>
    refine count_onMember family (fun hm => ?_) fun k hm => ?_
    · simp [increments, taken, decrements, dropped, hm]
    · rw [count_decrement (h.member hm)]
      simp [increments, taken, decrements, dropped, hm]
  | guard name m =>
    refine count_onMember family (fun hm => ?_) fun k hm => ?_
    · simp [increments, taken, decrements, dropped, hm]
    · show ((l.update k Activity.increment).release name).count family = _
      rw [count_replace h hm]
      simp [increments, taken, decrements, dropped, hm]
  | drop name =>
    show (l.release name).count family = _
    rw [count_release h]
    simp [increments, taken, decrements, dropped]
  | duplicate m => exact count_onMember family (fun _ => rfl) fun _ _ => rfl
  | create => exact count_create l family

/-- What a step gives back for nothing is what it has to give back and does not find. -/
theorem ignored_step (h : l.Sound) (family : Nat) (s : Step) :
    ignored family l s =
      decrements family l s + dropped family l s -
        (l.count family + (increments family l s + taken family l s)) := by
  cases s with
  | decrement m =>
    simp only [ignored, decrements, dropped, increments, taken]
    by_cases hm : l.members[m]? = some family
    · by_cases hc : l.count family = 0 <;> simp [hm, hc]
      omega
    · simp [hm]
  | drop name =>
    simp only [ignored, decrements, dropped, increments, taken]
    by_cases hg : l.guards.get? name = some family
    · by_cases hc : l.count family = 0 <;> simp [hg, hc]
      omega
    · simp [hg]
  | guard name m =>
    simp only [ignored, decrements, dropped, increments, taken]
    cases hm : l.members[m]? with
    | none => simp
    | some k =>
      dsimp only
      rw [count_increment (h.member hm)]
      by_cases hg : l.guards.get? name = some family
      · by_cases hk : some k = some family <;> by_cases hc : l.count family = 0 <;> simp [hg, hk, hc]
        omega
      · simp [hg]
  | increment m | duplicate m | create => simp [ignored, decrements, dropped]

theorem any_eq_some (o : Option Nat) (family : Nat) : o.any (· = family) = true ↔ o = some family := by
  cases o <;> simp

/-- **One step** adds the guard that it takes to those there are, and removes the one that it drops. -/
theorem live_step (family : Nat) (l : Ledger) (s : Step) :
    (l.step s).live family + dropped family l s = l.live family + taken family l s := by
  have herase : ∀ name, l.live family =
      (l.guards.erase name).countValues (· = family) +
        if l.guards.get? name = some family then 1 else 0 := by
    intro name
    unfold live
    rw [Dict.countValues_erase l.guards name]
    simp only [any_eq_some]
  cases s with
  | drop name =>
    show (l.release name).live family + _ = _
    rw [herase name, live, release_guards]
    rfl
  | guard name m =>
    cases hm : l.members[m]? with
    | none =>
      rw [step, onMember_of_none hm]
      simp [dropped, taken, hm]
    | some k =>
      -- The name is free when the new guard takes it.
      have hfree : ((l.update k Activity.increment).release name).guards.get? name = none := by
        rw [release_guards, Dict.get?_erase, if_pos rfl]
      rw [step, onMember_of_some hm, herase name]
      show (Dict.insert _ name k).countValues (· = family) + _ = _
      rw [Dict.countValues_insert hfree, release_guards, update_guards]
      simp only [dropped, taken, hm, Option.isSome_some, true_and, Option.some.injEq, decide_eq_true_eq]
      omega
  | increment m | decrement m | duplicate m =>
    refine onMember_keeps (P := fun u => u.live family + _ = _) rfl fun _ _ => rfl
  | create => rfl

/-! ## Whole runs -/

/-- The balance of a family over several steps: what it took less what it gave back, found or not. -/
def balance (family : Nat) (steps : List Step) : ℤ :=
  (total (increments family) initial steps + total (taken family) initial steps : ℕ) -
    (total (decrements family) initial steps + total (dropped family) initial steps : ℕ)

/-- The lowest balance of a family after any number of the steps, before the first one included. -/
def lowest (family : Nat) (steps : List Step) : ℤ :=
  (Finset.range (steps.length + 1)).inf' Finset.nonempty_range_add_one fun n =>
    balance family (steps.take n)

theorem lowest_snoc (family : Nat) (steps : List Step) (s : Step) :
    lowest family (steps ++ [s]) = min (balance family (steps ++ [s])) (lowest family steps) := by
  have hlast : balance family ((steps ++ [s]).take (steps.length + 1)) = balance family (steps ++ [s]) := by
    rw [List.take_of_length_le (by simp)]
  unfold lowest
  simp only [List.length_append, List.length_singleton, Finset.range_add_one (n := steps.length + 1)]
  rw [Finset.inf'_insert Finset.nonempty_range_add_one, hlast]
  refine congrArg (min _) (Finset.inf'_congr _ rfl fun n hn => ?_)
  rw [List.take_append_of_le_length (Nat.lt_succ_iff.mp (Finset.mem_range.mp hn))]

theorem lowest_le_zero (family : Nat) (steps : List Step) : lowest family steps ≤ 0 :=
  Finset.inf'_le _ (Finset.mem_range.mpr (Nat.succ_pos _))

theorem balance_snoc (family : Nat) (steps : List Step) (s : Step) :
    balance family (steps ++ [s]) = balance family steps +
      (increments family (initial.run steps) s + taken family (initial.run steps) s : ℕ) -
      (decrements family (initial.run steps) s + dropped family (initial.run steps) s : ℕ) := by
  unfold balance
  rw [total_snoc, total_snoc, total_snoc, total_snoc]
  push_cast
  ring

/-- The books of a family after several steps: its count and what it gave back for nothing, beside its
    balances, and its guards. -/
structure Accounted (family : Nat) (steps : List Step) : Prop where
  count : ((initial.run steps).count family : ℤ) = balance family steps - lowest family steps
  ignored : (total (ignored family) initial steps : ℤ) = -lowest family steps
  live : (initial.run steps).live family + total (dropped family) initial steps =
    total (taken family) initial steps

theorem accounted_nil (family : Nat) : Accounted family [] := by
  have hcount : initial.count family = 0 := by
    cases family <;> rfl
  refine ⟨?_, rfl, rfl⟩
  show (initial.count family : ℤ) = 0
  rw [hcount]
  rfl

/-- **One step** keeps the books. What it cannot give back makes a new lowest balance. -/
theorem accounted_snoc {family : Nat} {steps : List Step} (h : Accounted family steps) (s : Step) :
    Accounted family (steps ++ [s]) := by
  have hsound : (initial.run steps).Sound := sound_run sound_initial steps
  have hcount := count_step hsound family s
  have hignored := ignored_step hsound family s
  have hlive := live_step family (initial.run steps) s
  have hbooks := h.count
  have hlost := h.ignored
  have hheld := h.live
  refine ⟨?_, ?_, ?_⟩
  · rw [run_snoc, hcount, lowest_snoc, balance_snoc]
    omega
  · rw [total_snoc, hignored, lowest_snoc, balance_snoc]
    omega
  · rw [run_snoc, total_snoc, total_snoc]
    omega

/-- **A whole run** keeps the books. -/
theorem accounted_run (family : Nat) (steps : List Step) : Accounted family steps := by
  induction steps using List.reverseRecOn with
  | nil => exact accounted_nil family
  | append_singleton steps s ih => exact accounted_snoc ih s

/-! ## Families -/

/-- From which member every member stems, after one more step: the original of a duplicate is that of the
    duplicated member, and a member with a counter of its own is its own original. -/
def stem (originals : List Nat) : Step → List Nat
  | .duplicate m => originals ++ originals[m]?.toList
  | .create => originals ++ [originals.length]
  | _ => originals

/-- From which member every member stems after several steps. -/
def stems (steps : List Step) : List Nat := steps.foldl stem [0]

/-- Members beside the members they stem from: they have the same counter exactly if they stem from the same
    one. -/
structure Kin (originals : List Nat) (l : Ledger) : Prop where
  length : originals.length = l.members.length
  bound : ∀ r ∈ originals, r < originals.length
  same : ∀ i < l.members.length, ∀ j < l.members.length,
    l.members[i]? = l.members[j]? ↔ originals[i]? = originals[j]?

theorem kin_initial : Kin [0] initial := by
  refine ⟨rfl, by simp, fun i hi j hj => ?_⟩
  have hi0 : i = 0 := Nat.lt_one_iff.mp hi
  have hj0 : j = 0 := Nat.lt_one_iff.mp hj
  rw [hi0, hj0]
  exact ⟨fun _ => rfl, fun _ => rfl⟩

theorem getElem?_snoc (xs : List Nat) (x i : Nat) :
    (xs ++ [x])[i]? = if i = xs.length then some x else xs[i]? := by
  by_cases h : i = xs.length
  · rw [if_pos h, h, List.getElem?_concat_length]
  · rw [if_neg h, List.getElem?_append]
    split
    · rfl
    · rw [List.getElem?_eq_none (by simp; omega), List.getElem?_eq_none (by omega)]

variable {originals : List Nat}

/-- A duplicate is to its family what the duplicated member is. -/
theorem kin_duplicate (h : Kin originals l) (m : Nat) :
    Kin (stem originals (.duplicate m)) (l.step (.duplicate m)) := by
  cases hm : l.members[m]? with
  | none =>
    have hr : originals[m]? = none := by
      rw [List.getElem?_eq_none_iff, h.length]
      exact List.getElem?_eq_none_iff.mp hm
    rw [step, onMember_of_none hm, stem, hr]
    simpa using h
  | some k =>
    obtain ⟨hlt, -⟩ := List.getElem?_eq_some_iff.mp hm
    obtain ⟨r, hr⟩ : ∃ r, originals[m]? = some r :=
      ⟨_, List.getElem?_eq_getElem (by rw [h.length]; exact hlt)⟩
    rw [step, onMember_of_some hm, stem, hr]
    refine ⟨by simp [h.length], ?_, ?_⟩
    · intro x hx
      have hold : ∀ y ∈ originals, y < originals.length + 1 := fun y hy => Nat.lt_succ_of_lt (h.bound y hy)
      rw [List.length_append]
      rcases List.mem_append.mp hx with hx | hx
      · exact hold x hx
      · rw [List.mem_singleton.mp hx]
        exact hold r (List.mem_of_getElem? hr)
    · -- The new place looks like the place of the duplicated member in both lists.
      intro i hi j hj
      simp only [List.length_append, List.length_singleton] at hi hj
      simp only [Option.toList_some, getElem?_snoc, h.length]
      rw [← hm, ← hr]
      by_cases hi' : i = l.members.length <;> by_cases hj' : j = l.members.length
      · simp [hi', hj']
      · simp only [if_pos hi', if_neg hj']
        exact h.same m hlt j (by omega)
      · simp only [if_neg hi', if_pos hj']
        exact h.same i (by omega) m hlt
      · simp only [if_neg hi', if_neg hj']
        exact h.same i (by omega) j (by omega)

/-- A member with a counter of its own has no kin. -/
theorem kin_create (h : Kin originals l) (hs : l.Sound) : Kin (stem originals .create) (l.step .create) := by
  have hnew : ∀ i, originals[i]? ≠ some originals.length := fun i hi =>
    Nat.lt_irrefl _ (h.bound _ (List.mem_of_getElem? hi))
  have hown : ∀ i, l.members[i]? ≠ some l.counters.length := fun i hi => Nat.lt_irrefl _ (hs.member hi)
  refine ⟨by simp [stem, step, h.length], ?_, ?_⟩
  · intro x hx
    rw [stem, List.length_append]
    rcases List.mem_append.mp hx with hx | hx
    · exact Nat.lt_succ_of_lt (h.bound x hx)
    · rw [List.mem_singleton.mp hx]
      exact Nat.lt_succ_self _
  · intro i hi j hj
    simp only [step, List.length_append, List.length_singleton] at hi hj
    simp only [step, stem, getElem?_snoc, h.length]
    rw [h.length] at hnew
    by_cases hi' : i = l.members.length <;> by_cases hj' : j = l.members.length
    · simp [hi', hj']
    · simp only [if_pos hi', if_neg hj']
      exact ⟨fun heq => absurd heq.symm (hown j), fun heq => absurd heq.symm (hnew j)⟩
    · simp only [if_neg hi', if_pos hj']
      exact ⟨fun heq => absurd heq (hown i), fun heq => absurd heq (hnew i)⟩
    · simp only [if_neg hi', if_neg hj']
      exact h.same i (by omega) j (by omega)

theorem release_members (l : Ledger) (name : String) : (l.release name).members = l.members := by
  cases hg : l.guards.get? name with
  | none => rw [release_of_none hg]
  | some k => rw [release_of_some hg, update_members]

/-- A step without a new member changes nothing about kin. -/
theorem Kin.of_members (h : Kin originals l) {l' : Ledger} (hm : l'.members = l.members) :
    Kin originals l' := by
  refine ⟨by rw [hm, h.length], h.bound, ?_⟩
  rw [hm]
  exact h.same

theorem kin_step (h : Kin originals l) (hs : l.Sound) (s : Step) : Kin (stem originals s) (l.step s) := by
  cases s with
  | duplicate m => exact kin_duplicate h m
  | create => exact kin_create h hs
  | drop name => exact h.of_members (release_members l name)
  | increment m | decrement m => exact onMember_keeps h fun k _ => h.of_members rfl
  | guard name m => exact onMember_keeps h fun k _ => h.of_members (release_members _ name)

/-- Families are made of the members that stem from one original. -/
theorem kin_run (steps : List Step) : Kin (stems steps) (initial.run steps) := by
  induction steps using List.reverseRecOn with
  | nil => exact kin_initial
  | append_singleton steps s ih =>
    rw [stems, List.foldl_append, run_snoc]
    exact kin_step ih (sound_run sound_initial steps) s

/-! ## What members read -/

/-- With no more plain decrements than plain increments so far, guards keep every balance from falling below
    zero. -/
theorem lowest_of_paired {family : Nat} {steps : List Step}
    (h : ∀ n, total (decrements family) initial (steps.take n) ≤
      total (increments family) initial (steps.take n)) : lowest family steps = 0 := by
  refine le_antisymm (lowest_le_zero family steps) (Finset.le_inf' _ _ fun n _ => ?_)
  have hlive := (accounted_run family (steps.take n)).live
  have hpaired := h n
  unfold balance
  omega

/-- **What every member reads,** after any steps on any number of families.
    - Two members are of one family exactly if they stem from the same original, and the members of a family all
      read the same.
    - They read the balance of the family above the lowest one that it has had, and what it has given back for
      nothing is what that one lies below zero.
    - A step on another family changes nothing about what they read.
    - If plain decrements have never outnumbered plain increments, they read the guards that there are and the
      plain increments less the plain decrements. -/
theorem count_above_lowest (steps : List Step) {m family : Nat}
    (hm : (initial.run steps).members[m]? = some family) :
    let last := initial.run steps
    (∀ m' < last.members.length, last.members[m']? = some family ↔ (stems steps)[m']? = (stems steps)[m]?) ∧
    last.readings[m]? = some ⟨last.count family⟩ ∧
    (last.count family : ℤ) = balance family steps - lowest family steps ∧
    (total (ignored family) initial steps : ℤ) = -lowest family steps ∧
    (∀ s, increments family last s + taken family last s = 0 →
      decrements family last s + dropped family last s = 0 →
      (last.step s).count family = last.count family) ∧
    ((∀ n, total (decrements family) initial (steps.take n) ≤
        total (increments family) initial (steps.take n)) →
      last.count family + total (decrements family) initial steps =
        last.live family + total (increments family) initial steps) := by
  intro last
  have hbooks : Accounted family steps := accounted_run family steps
  have hcount : (last.count family : ℤ) = balance family steps - lowest family steps := hbooks.count
  have hlive : last.live family + total (dropped family) initial steps =
      total (taken family) initial steps := hbooks.live
  have hkin : Kin (stems steps) last := kin_run steps
  obtain ⟨hlt, -⟩ := List.getElem?_eq_some_iff.mp hm
  refine ⟨fun m' hm' => ?_, ?_, hcount, hbooks.ignored, fun s htakes hgives => ?_, fun hpaired => ?_⟩
  · rw [← hm]
    exact hkin.same m' hm' m hlt
  · rw [readings, List.getElem?_map, hm]
    rfl
  · rw [count_step (sound_run sound_initial steps) family s, htakes, hgives]
    rfl
  · rw [lowest_of_paired hpaired] at hcount
    unfold balance at hcount
    omega

/-- The first family gives back a unit that it does not have, and later one that a guard of it holds. A guard
    of the second family is replaced by one of the first. -/
def stolen : List Step :=
  [.decrement 0, .guard "a" 0, .duplicate 0, .create, .guard "b" 2, .increment 2, .decrement 1,
    .guard "b" 0, .guard "c" 2, .drop "a"]

/-- In the end the first family reads nothing although it has a live guard. The second one, to which nobody gave
    anything back in vain, reads its guard and its increment. -/
theorem count_above_lowest_stolen :
    let last := initial.run stolen
    last.members[1]? = some 0 ∧ last.members[2]? = some 1 ∧
      (stems stolen)[0]? = (stems stolen)[1]? ∧
      (last.count 0 : ℤ) = balance 0 stolen - lowest 0 stolen ∧ last.count 0 = 0 ∧ last.live 0 = 1 ∧
      (total (ignored 0) initial stolen : ℤ) = -lowest 0 stolen ∧ lowest 0 stolen = -1 ∧
      last.readings[2]? = some ⟨last.live 1 + total (increments 1) initial stolen⟩ := by
  intro last
  have hfirst : last.members[1]? = some 0 := by decide +kernel
  have hsecond : last.members[2]? = some 1 := by decide +kernel
  have hzero : 0 < last.members.length ∧ last.members[0]? = some 0 := by decide +kernel
  have hlowest : lowest 0 stolen = -1 := by decide +kernel
  have hfacts : last.count 0 = 0 ∧ last.live 0 = 1 ∧ total (decrements 1) initial stolen = 0 := by
    decide +kernel
  obtain ⟨hnothing, hlive, hnone⟩ := hfacts
  obtain ⟨hkin, _, hcount, hignored, _, _⟩ := count_above_lowest stolen hfirst
  obtain ⟨_, hreads, _, _, _, hpaired⟩ := count_above_lowest stolen hsecond
  have hheld : last.count 1 + total (decrements 1) initial stolen =
      last.live 1 + total (increments 1) initial stolen := by
    refine hpaired fun n => ?_
    have hshort : ∀ n < 11, total (decrements 1) initial (stolen.take n) = 0 := by decide +kernel
    by_cases hn : n < 11
    · rw [hshort n hn]
      exact Nat.zero_le _
    · rw [List.take_of_length_le (by simp [stolen]; omega), hnone]
      exact Nat.zero_le _
  rw [hnone, Nat.add_zero] at hheld
  exact ⟨hfirst, hsecond, (hkin 0 hzero.1).mp hzero.2, hcount, hnothing, hlive, hignored, hlowest,
    hheld ▸ hreads⟩

end Kanban.Ledger
