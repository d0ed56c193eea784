/-!
# `Dict` — finite maps from texts, kept in key order

A dictionary is a list of entries whose keys strictly increase, so it carries no order of its own
and two dictionaries with the same lookups are equal.

## Contents
- `Dict` and its operations `get?`, `insert`, `erase`, `modify`, `ofList`.
- One lookup law per operation: `get?_insert`, `get?_erase`, `get?_modify`.
- `ext_get?`: a dictionary is determined by its lookups.
-/

namespace Kanban

/-- A finite map from texts: entries in strictly increasing key order. -/
structure Dict (α : Type) where
  /-- The entries, smallest key first. -/
  entries : List (String × α)
  /-- Keys strictly increase. -/
  sorted : entries.Pairwise (fun a b => a.1 < b.1)

namespace Dict

variable {α β : Type}

/-! ## Entry lists -/

/-- Put an entry at its place in a key-ordered list, replacing an entry of the same key. -/
def insertEntry (k : String) (v : α) : List (String × α) → List (String × α)
  | [] => [(k, v)]
  | e :: rest =>
    if k < e.1 then (k, v) :: e :: rest
    else if k = e.1 then (k, v) :: rest
    else e :: insertEntry k v rest

theorem mem_insertEntry {k : String} {v : α} {a : String × α} {l : List (String × α)}
    (h : a ∈ insertEntry k v l) : a = (k, v) ∨ a ∈ l := by
  induction l with
  | nil => simpa [insertEntry] using h
  | cons e rest ih =>
    unfold insertEntry at h
    split at h
    · simpa using h
    · split at h
      · rcases List.mem_cons.mp h with h | h
        · exact Or.inl h
        · exact Or.inr (List.mem_cons_of_mem _ h)
      · rcases List.mem_cons.mp h with h | h
        · exact Or.inr (h ▸ List.mem_cons_self)
        · exact (ih h).imp id (List.mem_cons_of_mem _)

theorem pairwise_insertEntry (k : String) (v : α) {l : List (String × α)}
    (h : l.Pairwise (fun a b => a.1 < b.1)) :
    (insertEntry k v l).Pairwise (fun a b => a.1 < b.1) := by
  induction l with
  | nil => simp [insertEntry]
  | cons e rest ih =>
    have hrest := List.pairwise_cons.mp h
    unfold insertEntry
    split
    · rename_i hlt
      refine List.pairwise_cons.mpr ⟨fun a ha => ?_, h⟩
      rcases List.mem_cons.mp ha with rfl | ha
      · exact hlt
      · exact String.lt_trans hlt (hrest.1 a ha)
    · split
      · rename_i heq
        exact List.pairwise_cons.mpr ⟨fun a ha => heq ▸ hrest.1 a ha, hrest.2⟩
      · rename_i hnlt hne
        refine List.pairwise_cons.mpr ⟨fun a ha => ?_, ih hrest.2⟩
        rcases mem_insertEntry ha with rfl | ha
        · rcases Std.le_iff_lt_or_eq.mp (String.not_lt.mp hnlt) with h | h
          · exact h
          · exact absurd h.symm hne
        · exact hrest.1 a ha

/-! ## Operations -/

/-- The dictionary without entries. -/
def empty : Dict α := ⟨[], List.Pairwise.nil⟩

instance : Inhabited (Dict α) := ⟨empty⟩

/-- The value stored under a key. -/
def get? (d : Dict α) (k : String) : Option α := d.entries.lookup k

/-- Whether a key has a value. -/
def contains (d : Dict α) (k : String) : Bool := (d.get? k).isSome

/-- Store a value under a key, replacing an earlier one. -/
def insert (d : Dict α) (k : String) (v : α) : Dict α :=
  ⟨insertEntry k v d.entries, pairwise_insertEntry k v d.sorted⟩

/-- Remove a key. -/
def erase (d : Dict α) (k : String) : Dict α :=
  ⟨d.entries.filter (·.1 ≠ k), d.sorted.sublist List.filter_sublist⟩

/-- Change the value stored under a key, if there is one. -/
def modify (d : Dict α) (k : String) (f : α → α) : Dict α :=
  ⟨d.entries.map fun e => if e.1 = k then (e.1, f e.2) else e, by
    refine List.pairwise_map.mpr (d.sorted.imp fun {a b} h => ?_)
    by_cases ha : a.1 = k <;> by_cases hb : b.1 = k <;> simp_all⟩

/-- The number of keys. -/
def size (d : Dict α) : Nat := d.entries.length

/-- The keys in increasing order. -/
def keys (d : Dict α) : List String := d.entries.map (·.1)

/-- The dictionary of a list of entries; of entries with one key the last wins. -/
def ofList (l : List (String × α)) : Dict α := l.foldl (fun d e => d.insert e.1 e.2) empty

/-! ## Lookup laws -/

theorem lookup_cons (k : String) (e : String × α) (l : List (String × α)) :
    (e :: l).lookup k = if k = e.1 then some e.2 else l.lookup k := by
  obtain ⟨a, b⟩ := e
  by_cases h : k = a
  · subst h; simp
  · simp [List.lookup_cons, h, beq_eq_false_iff_ne.mpr h]

theorem lookup_insertEntry (k j : String) (v : α) (l : List (String × α)) :
    (insertEntry k v l).lookup j = if j = k then some v else l.lookup j := by
  induction l with
  | nil => simp [insertEntry, lookup_cons]
  | cons e rest ih =>
    unfold insertEntry
    split
    · rw [lookup_cons]
    · split
      · rename_i heq
        rw [lookup_cons, lookup_cons]
        by_cases h : j = k <;> simp [h, ← heq]
      · rename_i hne
        rw [lookup_cons, lookup_cons, ih]
        by_cases h : j = e.1
        · subst h; simp [Ne.symm hne]
        · simp [h]

@[simp] theorem get?_empty (k : String) : (empty : Dict α).get? k = none := rfl

theorem get?_insert (d : Dict α) (k j : String) (v : α) :
    (d.insert k v).get? j = if j = k then some v else d.get? j :=
  lookup_insertEntry k j v d.entries

theorem get?_erase (d : Dict α) (k j : String) :
    (d.erase k).get? j = if j = k then none else d.get? j := by
  show (d.entries.filter _).lookup j = _
  unfold get?
  induction d.entries with
  | nil => simp
  | cons e rest ih =>
    by_cases he : e.1 = k
    · rw [List.filter_cons_of_neg (by simp [he]), ih, lookup_cons]
      by_cases hj : j = k <;> simp [hj, he]
    · rw [List.filter_cons_of_pos (by simp [he]), lookup_cons, lookup_cons, ih]
      by_cases hj : j = e.1
      · subst hj; simp [he]
      · simp [hj]

theorem get?_modify (d : Dict α) (k j : String) (f : α → α) :
    (d.modify k f).get? j = if j = k then (d.get? j).map f else d.get? j := by
  show (d.entries.map _).lookup j = _
  unfold get?
  induction d.entries with
  | nil => simp
  | cons e rest ih =>
    rw [List.map_cons, lookup_cons, lookup_cons, ih]
    by_cases he : e.1 = k
    · by_cases hj : j = k
      · subst hj; simp [he]
      · simp [he, hj]
    · by_cases hj : j = e.1
      · subst hj; simp [he]
      · simp [he, hj]

/-! ## Extensionality -/

theorem lookup_eq_none_of_lt {k : String} {l : List (String × α)} (h : ∀ e ∈ l, k < e.1) :
    l.lookup k = none := by
  induction l with
  | nil => rfl
  | cons e rest ih =>
    rw [lookup_cons, if_neg, ih fun a ha => h a (List.mem_cons_of_mem _ ha)]
    intro heq
    exact String.lt_irrefl _ (heq ▸ h e List.mem_cons_self)

theorem entries_ext {l m : List (String × α)} (hl : l.Pairwise (fun a b => a.1 < b.1))
    (hm : m.Pairwise (fun a b => a.1 < b.1)) (h : ∀ k, l.lookup k = m.lookup k) : l = m := by
  induction l generalizing m with
  | nil =>
    cases m with
    | nil => rfl
    | cons e rest => simpa [lookup_cons] using h e.1
  | cons e rest ih =>
    cases m with
    | nil => simpa [lookup_cons] using h e.1
    | cons e' rest' =>
      have hl' := List.pairwise_cons.mp hl
      have hm' := List.pairwise_cons.mp hm
      have hkey : e.1 = e'.1 := by
        apply Classical.byContradiction
        intro hne
        by_cases hlt : e.1 < e'.1
        · have hthis := h e.1
          rw [lookup_cons, if_pos rfl, lookup_cons, if_neg hne,
            lookup_eq_none_of_lt fun a ha => String.lt_trans hlt (hm'.1 a ha)] at hthis
          simp at hthis
        · have hgt : e'.1 < e.1 :=
            (Std.le_iff_lt_or_eq.mp (String.not_lt.mp hlt)).resolve_right (Ne.symm hne)
          have hthis := h e'.1
          rw [lookup_cons, if_neg (Ne.symm hne), lookup_cons, if_pos rfl,
            lookup_eq_none_of_lt fun a ha => String.lt_trans hgt (hl'.1 a ha)] at hthis
          simp at hthis
      have hval : e.2 = e'.2 := by
        have hthis := h e.1
        rw [lookup_cons, if_pos rfl, lookup_cons, if_pos hkey] at hthis
        exact Option.some.inj hthis
      have hrest : rest = rest' := by
        refine ih hl'.2 hm'.2 fun k => ?_
        by_cases hk : k = e.1
        · subst hk
          rw [lookup_eq_none_of_lt hl'.1, lookup_eq_none_of_lt (hkey ▸ hm'.1)]
        · have hthis := h k
          rwa [lookup_cons, if_neg hk, lookup_cons, if_neg (hkey ▸ hk)] at hthis
      rw [hrest, Prod.ext hkey hval]

/-- A dictionary is determined by its lookups. -/
theorem ext_get? {d e : Dict α} (h : ∀ k, d.get? k = e.get? k) : d = e := by
  cases d with
  | mk l hl =>
    cases e with
    | mk m hm =>
      have hlm : l = m := entries_ext hl hm h
      subst hlm
      rfl

end Dict

end Kanban
