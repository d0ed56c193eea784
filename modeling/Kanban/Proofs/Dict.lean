import Kanban.Dict

/-!
# `Proofs.Dict` — many entries at once

## Contents
- `mapValues`: every value changed; `mapValues_insert`, `mapValues_modify`: before or after one entry.
- `modify_comm`: two values changed, in either order.
- `countValues`: how many values there are of a kind; `countValues_insert`, `countValues_erase`.
- `get_foldl_of_mem`, `get_foldl_of_not_mem`: what is found under a key after many entries with different
  keys, in whatever they are made.
- `mem_entries`, `ofList_entries`: a dictionary and its entries.
-/

namespace Kanban.Dict

/-! ## Every value changed -/

section mapValues

variable {α β : Type}

/-- Change every value, each under its key. -/
def mapValues (d : Dict α) (f : α → β) : Dict β :=
  ⟨d.entries.map fun e => (e.1, f e.2), List.pairwise_map.mpr d.sorted⟩

theorem get?_mapValues (d : Dict α) (f : α → β) (k : String) :
    (d.mapValues f).get? k = (d.get? k).map f := by
  show (d.entries.map _).lookup k = _
  unfold get?
  induction d.entries with
  | nil => rfl
  | cons e rest ih =>
    rw [List.map_cons, lookup_cons, lookup_cons, ih]
    by_cases hk : k = e.1
    · rw [if_pos hk, if_pos hk, Option.map_some]
    · rw [if_neg hk, if_neg hk]

theorem contains_mapValues (d : Dict α) (f : α → β) (k : String) :
    (d.mapValues f).contains k = d.contains k := by
  rw [contains, contains, get?_mapValues, Option.isSome_map]

theorem mapValues_insert (d : Dict α) (f : α → β) (k : String) (v : α) :
    (d.insert k v).mapValues f = (d.mapValues f).insert k (f v) := by
  refine ext_get? fun j => ?_
  rw [get?_mapValues, get?_insert, get?_insert, get?_mapValues]
  by_cases hj : j = k
  · rw [if_pos hj, if_pos hj, Option.map_some]
  · rw [if_neg hj, if_neg hj]

/-- A change of one value, seen through a change of every value. -/
theorem mapValues_modify {f : α → β} {g : α → α} {h : β → β} (hcomm : ∀ a, f (g a) = h (f a))
    (d : Dict α) (k : String) : (d.modify k g).mapValues f = (d.mapValues f).modify k h := by
  refine ext_get? fun j => ?_
  rw [get?_mapValues, get?_modify, get?_modify, get?_mapValues]
  by_cases hj : j = k
  · rw [if_pos hj, if_pos hj, Option.map_map, Option.map_map]
    exact congrArg (Option.map · (d.get? j)) (funext hcomm)
  · rw [if_neg hj, if_neg hj]

/-- A change of one value that is not seen. -/
theorem mapValues_modify_of_unseen {f : α → β} {g : α → α} (h : ∀ a, f (g a) = f a) (d : Dict α)
    (k : String) : (d.modify k g).mapValues f = d.mapValues f := by
  refine ext_get? fun j => ?_
  rw [get?_mapValues, get?_modify, get?_mapValues]
  by_cases hj : j = k
  · rw [if_pos hj, Option.map_map]
    exact congrArg (Option.map · (d.get? j)) (funext h)
  · rw [if_neg hj]

end mapValues

/-- Changes of two values do not get in each other's way. -/
theorem modify_comm {α : Type} {k j : String} (h : k ≠ j) (f g : α → α) (d : Dict α) :
    (d.modify k f).modify j g = (d.modify j g).modify k f := by
  refine ext_get? fun i => ?_
  rw [get?_modify, get?_modify, get?_modify, get?_modify]
  by_cases hk : i = k
  · have hj : i ≠ j := fun hj => h (hk.symm.trans hj)
    rw [if_pos hk, if_neg hj, if_neg hj, if_pos hk]
  · rw [if_neg hk, if_neg hk]

/-! ## How many values -/

section countValues

variable {α : Type}

/-- How many values there are of a kind. -/
def countValues (d : Dict α) (kind : α → Bool) : Nat := d.entries.countP fun e => kind e.2

theorem countP_insertEntry {k : String} {l : List (String × α)} (h : l.lookup k = none) (v : α)
    (kind : α → Bool) :
    (insertEntry k v l).countP (fun e => kind e.2) =
      l.countP (fun e => kind e.2) + if kind v then 1 else 0 := by
  induction l with
  | nil => rw [insertEntry, List.countP_singleton, List.countP_nil, Nat.zero_add]
  | cons e rest ih =>
    rw [lookup_cons] at h
    by_cases hk : k = e.1
    · rw [if_pos hk] at h
      cases h
    · rw [if_neg hk] at h
      unfold insertEntry
      rw [if_neg hk]
      split
      · rw [List.countP_cons]
      · rw [List.countP_cons, List.countP_cons, ih h]
        omega

/-- A new key adds its own value. -/
theorem countValues_insert {d : Dict α} {k : String} (h : d.get? k = none) (v : α) (kind : α → Bool) :
    (d.insert k v).countValues kind = d.countValues kind + if kind v then 1 else 0 :=
  countP_insertEntry h v kind

theorem countP_filter_key {k : String} {l : List (String × α)} (hl : l.Pairwise fun a b => a.1 < b.1)
    (kind : α → Bool) :
    l.countP (fun e => kind e.2) =
      (l.filter (·.1 ≠ k)).countP (fun e => kind e.2) + if (l.lookup k).any kind then 1 else 0 := by
  induction l with
  | nil => rfl
  | cons e rest ih =>
    have hrest := List.pairwise_cons.mp hl
    rw [List.countP_cons, lookup_cons]
    by_cases hk : k = e.1
    · -- No other entry has the key.
      have hgone : rest.lookup k = none := lookup_eq_none_of_lt fun a ha => hk ▸ hrest.1 a ha
      have hsame := ih hrest.2
      rw [hgone] at hsame
      rw [if_pos hk, List.filter_cons_of_neg (by simp [hk]), hsame]
      rfl
    · rw [if_neg hk, List.filter_cons_of_pos (by simpa using Ne.symm hk), List.countP_cons, ih hrest.2]
      omega

/-- A key that is removed takes its own value along. -/
theorem countValues_erase (d : Dict α) (k : String) (kind : α → Bool) :
    d.countValues kind = (d.erase k).countValues kind + if (d.get? k).any kind then 1 else 0 :=
  countP_filter_key d.sorted kind

end countValues

/-! ## Entries made one after another -/

variable {σ α β : Type} {step : σ → α → σ} {key : α → String} {get : σ → String → β} {value : α → β}

/-- Entries of other keys leave a key alone. -/
theorem get_foldl_of_not_mem (hstep : ∀ s a x, get (step s a) x = if x = key a then value a else get s x)
    {l : List α} {x : String} (hx : x ∉ l.map key) (s : σ) : get (l.foldl step s) x = get s x := by
  induction l generalizing s with
  | nil => rfl
  | cons a rest ih =>
    simp only [List.map_cons, List.mem_cons, not_or] at hx
    rw [List.foldl_cons, ih hx.2, hstep, if_neg hx.1]

/-- Where keys differ, every entry is found under its key. -/
theorem get_foldl_of_mem (hstep : ∀ s a x, get (step s a) x = if x = key a then value a else get s x)
    {l : List α} (hn : (l.map key).Nodup) {a : α} (ha : a ∈ l) (s : σ) :
    get (l.foldl step s) (key a) = value a := by
  induction l generalizing s with
  | nil => cases ha
  | cons b rest ih =>
    rw [List.map_cons, List.nodup_cons] at hn
    rw [List.foldl_cons]
    -- What is made first is not made again, and what is made later does not depend on it.
    rcases List.mem_cons.mp ha with rfl | ha
    · rw [get_foldl_of_not_mem hstep hn.1, hstep, if_pos rfl]
    · exact ih hn.2 ha _

/-! ## All entries once more -/

/-- The entries are what is found under the keys. -/
theorem mem_entries {d : Dict α} {k : String} {v : α} : (k, v) ∈ d.entries ↔ d.get? k = some v := by
  rw [get?, List.lookup_eq_some_iff]
  constructor
  · intro hmem
    obtain ⟨before, later, hsplit⟩ := List.append_of_mem hmem
    refine ⟨before, later, hsplit, fun p hp => bne_iff_ne.mpr fun heq => ?_⟩
    have hsorted := d.sorted
    rw [hsplit] at hsorted
    have hlt : p.1 < k := (List.pairwise_append.mp hsorted).2.2 p hp (k, v) List.mem_cons_self
    exact String.lt_irrefl k (heq ▸ hlt)
  · rintro ⟨before, later, hsplit, -⟩
    rw [hsplit]
    exact List.mem_append_right before List.mem_cons_self

theorem get?_foldl_insert {l : List (String × α)} (hn : (l.map (·.1)).Nodup) (d : Dict α) (k : String) :
    (l.foldl (fun d e => d.insert e.1 e.2) d).get? k = (l.lookup k).or (d.get? k) := by
  induction l generalizing d with
  | nil => rfl
  | cons e rest ih =>
    rw [List.map_cons, List.nodup_cons] at hn
    rw [List.foldl_cons, ih hn.2, lookup_cons, get?_insert]
    by_cases hk : k = e.1
    · -- The key does not come again.
      have hgone : rest.lookup k = none := by
        rw [List.lookup_eq_none_iff]
        intro p hp
        rw [bne_iff_ne, hk]
        exact fun heq => hn.1 (heq ▸ List.mem_map_of_mem hp)
      rw [if_pos hk, if_pos hk, hgone, Option.none_or, Option.some_or]
    · rw [if_neg hk, if_neg hk]

/-- A dictionary is made of its entries. -/
theorem ofList_entries (d : Dict α) : ofList d.entries = d := by
  have hn : (d.entries.map (·.1)).Nodup := by
    refine List.pairwise_map.mpr (d.sorted.imp fun {a b} hlt heq => ?_)
    exact String.lt_irrefl b.1 (heq ▸ hlt)
  refine ext_get? fun k => ?_
  rw [ofList, get?_foldl_insert hn, get?_empty, Option.or_none]
  rfl

end Kanban.Dict
