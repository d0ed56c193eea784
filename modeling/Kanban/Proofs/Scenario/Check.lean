import Kanban.Proofs.Fault
import Kanban.Scenario.Check

/-!
# `Proofs.Scenario.Check` — what a checked scenario is known to be

## Contents
- `Setting.demand_eq_ok`, `filled_eq_ok`, `known_eq_ok`, `distinct_eq_ok`, `positive_eq_ok`, `nonNegative_eq_ok`,
  `finite_eq_ok`, `within_eq_ok`, `required_eq_ok`: what each check accepts.
- `Setting.Misnames`, `demand_eq_error`, …, `required_eq_error`: what each check refuses, and how it says so.
- `limit_eq_none`: when a release waits for ever.
- `check_eq_ok`, `checkColumns_eq_ok`: the parts of the check of a scenario.
- `refreshInterval_of_check`, `columnIds_of_check`, `cardIds_of_check`, `checkStep_of_check`: what follows.
-/

namespace Kanban

namespace Setting

theorem demand_eq_ok {rule : Bool} {field value reason : String} :
    demand rule field value reason = .ok () ↔ rule = true := by
  unfold demand
  cases rule <;> simp

theorem filled_eq_ok {field value : String} : filled field value = .ok () ↔ Text.isBlank value = false := by
  rw [filled, demand_eq_ok, Bool.not_eq_true']

theorem known_eq_ok {field value : String} {ids : List String} :
    known field value ids = .ok () ↔ value ∈ ids := by
  rw [known, demand_eq_ok, List.contains_iff_mem]

theorem distinctFrom_eq_ok {field : String} {seen ids : List String} :
    distinctFrom field seen ids = .ok () ↔
      (∀ id ∈ ids, Text.isBlank id = false) ∧ ids.Nodup ∧ ∀ id ∈ ids, id ∉ seen := by
  induction ids generalizing seen with
  | nil => simp [distinctFrom]
  | cons id rest ih =>
    -- What has been seen grows by one identifier, so the induction is for all of it.
    unfold distinctFrom
    rw [Fault.seq_eq_ok, Fault.seq_eq_ok, filled_eq_ok, demand_eq_ok, ih]
    simp only [List.mem_cons, forall_eq_or_imp, List.nodup_cons, not_or, forall_and,
      Bool.not_eq_true', List.contains_eq_mem, decide_eq_false_iff_not]
    constructor
    · rintro ⟨hfilled, hnew, hrest, hnodup, hdiffer, hseen⟩
      exact ⟨⟨hfilled, hrest⟩, ⟨fun hmem => hdiffer id hmem rfl, hnodup⟩, hnew, hseen⟩
    · rintro ⟨⟨hfilled, hrest⟩, ⟨hdiffer, hnodup⟩, hnew, hseen⟩
      exact ⟨hfilled, hnew, hrest, hnodup, fun x hx heq => hdiffer (heq ▸ hx), hseen⟩

/-- **Identifiers pass** if they are filled and differ. -/
theorem distinct_eq_ok {field : String} {ids : List String} :
    distinct field ids = .ok () ↔ (∀ id ∈ ids, Text.isBlank id = false) ∧ ids.Nodup := by
  rw [distinct, distinctFrom_eq_ok]
  simp

theorem positive_eq_ok {field : String} {value : Float} :
    positive field value = .ok () ↔ value.isFinite = true ∧ 0 < value := by
  rw [positive, demand_eq_ok, Bool.and_eq_true, decide_eq_true_iff]

theorem nonNegative_eq_ok {field : String} {value : Float} :
    nonNegative field value = .ok () ↔ value.isFinite = true ∧ 0 ≤ value := by
  rw [nonNegative, demand_eq_ok, Bool.and_eq_true, decide_eq_true_iff]

theorem finite_eq_ok {field : String} {value : Float} : finite field value = .ok () ↔ value.isFinite = true := by
  rw [finite, demand_eq_ok]

theorem within_eq_ok {field : String} {value least greatest : Nat} :
    within field value least greatest = .ok () ↔ least ≤ value ∧ value ≤ greatest := by
  rw [within, demand_eq_ok]
  simp [Scalar.below]

theorem required_eq_ok {α : Type} {field : String} {o : Option α} {value : α} :
    required field o = .ok value ↔ o = some value := by
  cases o <;> simp [required]

/-! ## What a single check refuses -/

variable {fault : Fault}

theorem demand_eq_error {rule : Bool} {field value reason : String} :
    demand rule field value reason = .error fault ↔ rule = false ∧ .invalidSetting field value reason = fault := by
  unfold demand
  cases rule <;> simp

theorem filled_eq_error {field value : String} :
    filled field value = .error fault ↔ Text.isBlank value = true ∧
      .invalidSetting field value "Value cannot be empty or whitespace-only" = fault := by
  rw [filled, demand_eq_error, Bool.not_eq_false']

theorem known_eq_error {field value : String} {ids : List String} :
    known field value ids = .error fault ↔ value ∉ ids ∧
      .invalidSetting field value "Refers to an id that is not defined on the board" = fault := by
  rw [known, demand_eq_error, ← Bool.not_eq_true, List.contains_iff_mem]

theorem positive_eq_error {field : String} {value : Float} :
    positive field value = .error fault ↔ ¬ (value.isFinite = true ∧ 0 < value) ∧
      .invalidSetting field (Decimal.plain.write value) "Value must be a finite number greater than 0" =
        fault := by
  rw [positive, demand_eq_error, ← Bool.not_eq_true, Bool.and_eq_true, decide_eq_true_iff]

theorem nonNegative_eq_error {field : String} {value : Float} :
    nonNegative field value = .error fault ↔ ¬ (value.isFinite = true ∧ 0 ≤ value) ∧
      .invalidSetting field (Decimal.plain.write value) "Value must be a finite number of at least 0" = fault := by
  rw [nonNegative, demand_eq_error, ← Bool.not_eq_true, Bool.and_eq_true, decide_eq_true_iff]

theorem finite_eq_error {field : String} {value : Float} :
    finite field value = .error fault ↔ value.isFinite = false ∧
      .invalidSetting field (Decimal.plain.write value) "Value must be finite" = fault := by
  rw [finite, demand_eq_error]

theorem within_eq_error {field : String} {value least greatest : Nat} :
    within field value least greatest = .error fault ↔ (value < least ∨ greatest < value) ∧
      .invalidSetting field (toString value)
        ("Value must be between " ++ toString least ++ " and " ++ toString greatest) = fault := by
  rw [within, demand_eq_error, Bool.not_eq_false', Bool.or_eq_true]
  refine and_congr ?_ Iff.rfl
  simp [Scalar.below]

theorem required_eq_error {α : Type} {field : String} {o : Option α} :
    required field o = .error fault ↔ o = none ∧ .missingSetting field = fault := by
  cases o <;> simp [required]

/-- **What is wrong with identifiers**: one of them is blank, or it is there twice. -/
inductive Misnames (field : String) (ids : List String) : Fault → Prop where
  | blank {id : String} : id ∈ ids → Text.isBlank id = true →
      Misnames field ids (.invalidSetting field id "Value cannot be empty or whitespace-only")
  | repeated {id : String} : 2 ≤ ids.count id → Misnames field ids (.invalidSetting field id "Duplicate id")

/-- The order of identifiers does not matter. -/
theorem Misnames.perm {field : String} {ids ids' : List String} (h : Misnames field ids fault)
    (hperm : ids.Perm ids') : Misnames field ids' fault := by
  cases h with
  | blank hmem hblank => exact .blank (hperm.mem_iff.mp hmem) hblank
  | @repeated id htwice =>
    refine .repeated ?_
    rw [← hperm.count_eq id]
    exact htwice

theorem distinctFrom_eq_error {field : String} {seen ids : List String}
    (h : distinctFrom field seen ids = .error fault) : Misnames field (seen ++ ids) fault := by
  induction ids generalizing seen with
  | nil => cases h
  | cons id rest ih =>
    -- What has been seen and what is still to be seen are together always the same identifiers.
    unfold distinctFrom at h
    obtain hfilled | ⟨_, h⟩ := Fault.seq_eq_error.mp h
    · obtain ⟨hblank, rfl⟩ := filled_eq_error.mp hfilled
      exact .blank (List.mem_append_right seen List.mem_cons_self) hblank
    · obtain hnew | ⟨_, hrest⟩ := Fault.seq_eq_error.mp h
      · obtain ⟨hseen, rfl⟩ := demand_eq_error.mp hnew
        rw [Bool.not_eq_false', List.contains_iff_mem] at hseen
        have hbefore : 0 < seen.count id := List.count_pos_iff.mpr hseen
        refine .repeated ?_
        rw [List.count_append, List.count_cons_self]
        omega
      · exact (ih hrest).perm List.perm_middle.symm

/-- **Identifiers are refused** for a blank one or for one that is there twice. -/
theorem distinct_eq_error {field : String} {ids : List String} (h : distinct field ids = .error fault) :
    Misnames field ids fault :=
  distinctFrom_eq_error h

end Setting

namespace Scenario

variable {s : Scenario}

/-- A release waits for ever exactly if the scenario says zero. -/
theorem limit_eq_none : s.limit = none ↔ s.confirmationTimeout = some 0 := by
  unfold limit
  split <;> simp_all

/-! ## The parts of the check -/

theorem check_eq_ok :
    s.check = .ok () ↔ Setting.filled "board.name" s.name = .ok () ∧ checkViewport s.viewport = .ok () ∧
      checkTimeout s.confirmationTimeout = .ok () ∧ checkRefresh s.refresh = .ok () ∧
      s.checkColumns = .ok () ∧ ∀ x ∈ s.steps, s.checkStep x = .ok () := by
  unfold check
  rw [Fault.seq_eq_ok, Fault.seq_eq_ok, Fault.seq_eq_ok, Fault.seq_eq_ok, Fault.seq_eq_ok,
    Fault.forM_eq_ok]

theorem checkColumns_eq_ok :
    s.checkColumns = .ok () ↔ s.columns ≠ [] ∧ Setting.distinct "columns.id" s.columnIds = .ok () ∧
      Setting.distinct "columns.cards.id" s.cardIds = .ok () ∧
      ∀ c ∈ s.cards, Setting.positive "columns.cards.width" c.width = .ok () := by
  unfold checkColumns
  by_cases hempty : s.columns.isEmpty = true
  · have hnil : s.columns = [] := List.isEmpty_iff.mp hempty
    rw [if_pos hempty]
    simp [hnil, bind, Except.bind, throw, throwThe, MonadExceptOf.throw]
  · have hnil : s.columns ≠ [] := fun h => hempty (List.isEmpty_iff.mpr h)
    rw [if_neg hempty, Fault.seq_eq_ok, Fault.seq_eq_ok, Fault.forM_eq_ok]
    exact ⟨fun h => ⟨hnil, h⟩, fun h => h.2⟩

/-! ## What follows -/

/-- A background refresh that is enabled has an interval. -/
theorem refreshInterval_of_check (h : s.check = .ok ()) : s.refreshInterval ≠ some 0 := by
  have hrefresh := (check_eq_ok.mp h).2.2.2.1
  unfold refreshInterval
  cases hr : s.refresh with
  | none => simp
  | some r =>
    rw [hr] at hrefresh
    dsimp only
    by_cases hon : r.enabled = true
    · rw [if_pos hon]
      unfold checkRefresh at hrefresh
      simp only [hon, if_true] at hrefresh
      -- The interval is not only there, it is within bounds that leave zero out.
      obtain ⟨ms, hms, hwithin⟩ := Fault.bind_eq_ok.mp hrefresh
      rw [Setting.required_eq_ok.mp hms, Option.getD_some]
      have hleast := (Setting.within_eq_ok.mp hwithin).1
      intro hzero
      cases hzero
      omega
    · rw [if_neg hon]
      simp

theorem columnIds_of_check (h : s.check = .ok ()) : s.columnIds.Nodup := by
  have hcolumns := checkColumns_eq_ok.mp (check_eq_ok.mp h).2.2.2.2.1
  exact (Setting.distinct_eq_ok.mp hcolumns.2.1).2

theorem cardIds_of_check (h : s.check = .ok ()) : s.cardIds.Nodup := by
  have hcolumns := checkColumns_eq_ok.mp (check_eq_ok.mp h).2.2.2.2.1
  exact (Setting.distinct_eq_ok.mp hcolumns.2.2.1).2

theorem checkStep_of_check (h : s.check = .ok ()) : ∀ x ∈ s.steps, s.checkStep x = .ok () :=
  (check_eq_ok.mp h).2.2.2.2.2

end Scenario
end Kanban
