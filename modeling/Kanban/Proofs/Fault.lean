import Kanban.Fault

/-!
# `Proofs.Fault` — one thing after another, each of which can fail

## Contents
- `bind_eq_ok`, `seq_eq_ok`: when two things in a row succeed; `bind_eq_error`, `seq_eq_error`: when they fail.
- `forM_eq_ok`: when many checks in a row succeed; `forM_eq_error`: whose fault it is when they fail.
- `foldlM_keeps`: what every one of many things in a row keeps; `foldlM_snoc_eq_ok`, `foldlM_stops`: where they
  get to.
-/

namespace Kanban.Fault

variable {α β : Type}

/-- Two things in a row succeed if the first one does and the second one does with what the first one left. -/
theorem bind_eq_ok {x : Except Fault α} {f : α → Except Fault β} {y : β} :
    x >>= f = .ok y ↔ ∃ a, x = .ok a ∧ f a = .ok y := by
  cases x with
  | error fault =>
    constructor
    · intro h
      cases h
    · rintro ⟨a, h, _⟩
      cases h
  | ok a =>
    constructor
    · intro h
      exact ⟨a, rfl, h⟩
    · rintro ⟨a', h, hy⟩
      cases h
      exact hy

/-- A check in front of something else. -/
theorem seq_eq_ok {x : Except Fault Unit} {y : Except Fault α} {a : α} :
    (x >>= fun _ => y) = .ok a ↔ x = .ok () ∧ y = .ok a := by
  rw [bind_eq_ok]
  constructor
  · rintro ⟨_, h, hy⟩
    exact ⟨h, hy⟩
  · rintro ⟨h, hy⟩
    exact ⟨(), h, hy⟩

/-- Two things in a row fail where the first one of them fails. -/
theorem bind_eq_error {x : Except Fault α} {f : α → Except Fault β} {fault : Fault} :
    x >>= f = .error fault ↔ x = .error fault ∨ ∃ a, x = .ok a ∧ f a = .error fault := by
  cases x with
  | error first =>
    constructor
    · intro h
      cases h
      exact .inl rfl
    · rintro (h | ⟨a, h, _⟩)
      · cases h
        rfl
      · cases h
  | ok a =>
    constructor
    · intro h
      exact .inr ⟨a, rfl, h⟩
    · rintro (h | ⟨a', h, hfault⟩)
      · cases h
      · cases h
        exact hfault

/-- A check that fails, in front of something else or behind something that succeeds. -/
theorem seq_eq_error {x : Except Fault Unit} {y : Except Fault α} {fault : Fault} :
    (x >>= fun _ => y) = .error fault ↔ x = .error fault ∨ x = .ok () ∧ y = .error fault := by
  rw [bind_eq_error]
  refine or_congr Iff.rfl ⟨?_, fun ⟨h, hy⟩ => ⟨(), h, hy⟩⟩
  rintro ⟨_, h, hy⟩
  exact ⟨h, hy⟩

/-- Many checks in a row. -/
theorem forM_eq_ok {f : α → Except Fault PUnit} {l : List α} :
    l.forM f = .ok () ↔ ∀ a ∈ l, f a = .ok () := by
  induction l with
  | nil => exact ⟨fun _ a ha => (by cases ha), fun _ => rfl⟩
  | cons a rest ih =>
    show (f a >>= fun _ => rest.forM f) = .ok () ↔ _
    rw [seq_eq_ok, ih, List.forall_mem_cons]

/-- The fault of many checks in a row is the fault of one of them. -/
theorem forM_eq_error {f : α → Except Fault Unit} {l : List α} {fault : Fault}
    (h : l.forM f = .error fault) : ∃ a ∈ l, f a = .error fault := by
  induction l with
  | nil => cases h
  | cons a rest ih =>
    have hsplit : (f a >>= fun _ => rest.forM f) = .error fault := h
    obtain hfirst | ⟨_, hrest⟩ := seq_eq_error.mp hsplit
    · exact ⟨a, List.mem_cons_self, hfirst⟩
    · obtain ⟨b, hb, hfault⟩ := ih hrest
      exact ⟨b, List.mem_cons_of_mem a hb, hfault⟩

/-- What each of many things in a row keeps, all of them keep. -/
theorem foldlM_keeps {P : β → Prop} {f : β → α → Except Fault β}
    (hf : ∀ b a b', f b a = .ok b' → P b → P b') {l : List α} {b b' : β} (h : l.foldlM f b = .ok b')
    (hb : P b) : P b' := by
  induction l generalizing b with
  | nil => cases h; exact hb
  | cons a rest ih =>
    rw [List.foldlM_cons, bind_eq_ok] at h
    obtain ⟨b₁, hfirst, hrest⟩ := h
    exact ih hrest (hf b a b₁ hfirst hb)

/-- Many things in a row and one more. -/
theorem foldlM_snoc_eq_ok {f : β → α → Except Fault β} {l : List α} {a : α} {b b' : β} :
    (l ++ [a]).foldlM f b = .ok b' ↔ ∃ b₁, l.foldlM f b = .ok b₁ ∧ f b₁ a = .ok b' := by
  rw [List.foldlM_append, bind_eq_ok]
  refine exists_congr fun b₁ => and_congr_right fun _ => ?_
  show (f b₁ a >>= pure) = .ok b' ↔ _
  rw [bind_pure]

/-- Many things in a row stop at one that fails. -/
theorem foldlM_stops {f : β → α → Except Fault β} {l m : List α} {a : α} {b b' : β} {fault : Fault}
    (hl : l.foldlM f b = .ok b') (ha : f b' a = .error fault) : (l ++ a :: m).foldlM f b = .error fault := by
  rw [List.foldlM_append, hl]
  show (f b' a >>= _) = _
  rw [ha]
  rfl

end Kanban.Fault
