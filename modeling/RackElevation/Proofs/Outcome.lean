import Mathlib.Data.List.Forall2
import RackElevation.Note

/-!
# Outcomes of steps

A stage that is made of steps has a result exactly when its steps have, and the joined stages of a
`Report` have the outcome of their outcomes run one after the other.  `FailsOnly` bounds the
failures of a stage by those of its steps.
-/

namespace RackElevation

section Outcomes

variable {ε α β : Type}

/-- Two steps have a result when the first one has and the second one has on it. -/
theorem bind_eq_ok {x : Except ε α} {f : α → Except ε β} {b : β} :
    (x >>= f) = .ok b ↔ ∃ a, x = .ok a ∧ f a = .ok b := by
  cases x with
  | error e =>
      constructor
      · rintro ⟨⟩
      · rintro ⟨_, ⟨⟩, _⟩
  | ok a =>
      refine ⟨fun h => ⟨a, rfl, h⟩, ?_⟩
      rintro ⟨a', h, h'⟩
      cases h
      exact h'

/-- A changed result comes from a result. -/
theorem map_eq_ok {x : Except ε α} {f : α → β} {b : β} :
    x.map f = .ok b ↔ ∃ a, x = .ok a ∧ f a = b := by
  cases x with
  | error e =>
      constructor
      · rintro ⟨⟩
      · rintro ⟨_, ⟨⟩, _⟩
  | ok a =>
      refine ⟨fun h => ⟨a, rfl, Except.ok.inj h⟩, ?_⟩
      rintro ⟨a', h, rfl⟩
      cases h
      rfl

/-- A row of steps has the results that the steps have one by one. -/
theorem mapM_eq_ok {f : α → Except ε β} {as : List α} {bs : List β} :
    as.mapM f = .ok bs ↔ List.Forall₂ (fun a b => f a = .ok b) as bs := by
  induction as generalizing bs with
  | nil =>
      rw [List.mapM_nil, List.forall₂_nil_left_iff]
      exact ⟨fun h => (Except.ok.inj h).symm, fun h => h ▸ rfl⟩
  | cons a as ih =>
      rw [List.mapM_cons, bind_eq_ok, List.forall₂_cons_left_iff]
      constructor
      · rintro ⟨b, hb, h⟩
        obtain ⟨bs', hbs, h⟩ := bind_eq_ok.1 h
        exact ⟨b, bs', hb, ih.1 hbs, (Except.ok.inj h).symm⟩
      · rintro ⟨b, bs', hb, hbs, rfl⟩
        exact ⟨b, hb, bind_eq_ok.2 ⟨bs', ih.2 hbs, rfl⟩⟩

/-- A row of steps that have a given result under a condition. -/
theorem mapM_eq_ok_of_iff {f : α → Except ε β} {holds : α → Prop} {g : α → β}
    (h : ∀ a b, f a = .ok b ↔ holds a ∧ g a = b) {as : List α} {bs : List β} :
    as.mapM f = .ok bs ↔ (∀ a ∈ as, holds a) ∧ as.map g = bs := by
  rw [mapM_eq_ok]
  induction as generalizing bs with
  | nil =>
      rw [List.forall₂_nil_left_iff]
      exact ⟨fun hbs => ⟨fun _ ha => absurd ha List.not_mem_nil, hbs.symm⟩, fun hbs => hbs.2.symm⟩
  | cons a as ih =>
      rw [List.forall₂_cons_left_iff, List.forall_mem_cons, List.map_cons]
      constructor
      · rintro ⟨b, bs', hb, hbs, rfl⟩
        obtain ⟨ha, rfl⟩ := (h a b).1 hb
        obtain ⟨has, rfl⟩ := ih.1 hbs
        exact ⟨⟨ha, has⟩, rfl⟩
      · rintro ⟨⟨ha, has⟩, rfl⟩
        exact ⟨g a, as.map g, (h a (g a)).2 ⟨ha, rfl⟩, ih.2 ⟨has, rfl⟩, rfl⟩

/-- Steps whose results are related to the members of a list have a row of related results. -/
theorem exists_mapM_eq_ok {γ : Type} {f : α → Except ε β} {r : β → γ → Prop} {as : List α}
    {cs : List γ} (h : List.Forall₂ (fun a c => ∃ b, f a = .ok b ∧ r b c) as cs) :
    ∃ bs, as.mapM f = .ok bs ∧ List.Forall₂ r bs cs := by
  induction h with
  | nil => exact ⟨[], rfl, .nil⟩
  | cons h _ ih =>
      obtain ⟨b, hb, hr⟩ := h
      obtain ⟨bs, hbs, hrs⟩ := ih
      exact ⟨b :: bs, mapM_eq_ok.2 (.cons hb (mapM_eq_ok.1 hbs)), .cons hr hrs⟩

/-- A result that is returned is the result. -/
theorem pure_eq_ok {a b : α} : (pure a : Except ε α) = .ok b ↔ a = b :=
  ⟨fun h => Except.ok.inj h, fun h => h ▸ rfl⟩

/-- Two rows of steps that give lists have the joined lists of both. -/
theorem mapM_flatten_append_eq_ok {f : α → Except ε (List β)} {as as' : List α} {bs : List β} :
    ((as ++ as').mapM f).map List.flatten = .ok bs ↔
      ∃ b b', (as.mapM f).map List.flatten = .ok b ∧ (as'.mapM f).map List.flatten = .ok b' ∧
        b ++ b' = bs := by
  simp only [map_eq_ok, List.mapM_append, bind_eq_ok, pure_eq_ok]
  constructor
  · rintro ⟨_, ⟨rows, hrows, rows', hrows', rfl⟩, rfl⟩
    exact ⟨_, _, ⟨rows, hrows, rfl⟩, ⟨rows', hrows', rfl⟩, List.flatten_append.symm⟩
  · rintro ⟨_, _, ⟨rows, hrows, rfl⟩, ⟨rows', hrows', rfl⟩, rfl⟩
    exact ⟨_, ⟨rows, hrows, rows', hrows', rfl⟩, List.flatten_append⟩

@[simp] theorem ok_bind {a : α} {f : α → Except ε β} : ((.ok a : Except ε α) >>= f) = f a := rfl

@[simp] theorem error_bind {e : ε} {f : α → Except ε β} :
    ((.error e : Except ε α) >>= f) = .error e := rfl

end Outcomes

/-! ## Failures -/

section Failures

variable {α β : Type} {sort : Failure → Prop} {x : Except Failure α}

/-- An outcome that is a result or a failure of a given sort. -/
def FailsOnly (sort : Failure → Prop) (x : Except Failure α) : Prop :=
  ∀ failure, x = .error failure → sort failure

namespace FailsOnly

/-- A result is no failure. -/
theorem ok {a : α} : FailsOnly sort (.ok a : Except Failure α) :=
  fun _ h => nomatch h

/-- A failure of the sort. -/
theorem error {failure : Failure} (h : sort failure) :
    FailsOnly sort (.error failure : Except Failure α) := by
  intro failure' heq
  rwa [← Except.error.inj heq]

/-- The sort of failures may be widened. -/
theorem mono {wider : Failure → Prop} (h : FailsOnly sort x)
    (himp : ∀ failure, sort failure → wider failure) : FailsOnly wider x :=
  fun failure hx => himp failure (h failure hx)

/-- Two steps fail as one of them does. -/
theorem bind {f : α → Except Failure β} (hx : FailsOnly sort x)
    (hf : ∀ a, x = .ok a → FailsOnly sort (f a)) : FailsOnly sort (x >>= f) := by
  cases x with
  | error failure => exact error (hx failure rfl)
  | ok a => exact hf a rfl

/-- What is made of a result adds no failures. -/
theorem map {f : α → β} (hx : FailsOnly sort x) : FailsOnly sort (x.map f) := by
  cases x with
  | error failure => exact error (hx failure rfl)
  | ok a => exact ok

/-- A row of steps fails as one of them does. -/
theorem mapM {f : α → Except Failure β} {as : List α} (h : ∀ a ∈ as, FailsOnly sort (f a)) :
    FailsOnly sort (as.mapM f) := by
  induction as with
  | nil => exact ok
  | cons a as ih =>
      rw [List.mapM_cons]
      obtain ⟨ha, has⟩ := List.forall_mem_cons.1 h
      exact ha.bind fun _ _ => (ih has).bind fun _ _ => ok

end FailsOnly

/-- An outcome is a result or a failure of the sort that it may have. -/
theorem ok_or_error (h : FailsOnly sort x) :
    (∃ a, x = .ok a) ∨ ∃ failure, sort failure ∧ x = .error failure := by
  cases x with
  | error failure => exact .inr ⟨failure, h failure rfl, rfl⟩
  | ok a => exact .inl ⟨a, rfl⟩

end Failures

/-! ## Reports -/

namespace Report

variable {α : Type}

@[simp] theorem outcome_map {β : Type} (f : α → β) (report : Report α) :
    (report.map f).outcome = report.outcome.map f := rfl

/-- Stages run one after the other have the outcome of their outcomes. -/
theorem outcome_sequence (reports : List (Report α)) :
    (sequence reports).outcome = reports.mapM outcome := by
  induction reports with
  | nil => rfl
  | cons first rest ih =>
      rw [sequence, outcome_andThen, List.mapM_cons, ← ih]
      cases first.outcome with
      | error e => rfl
      | ok a => cases h : (sequence rest).outcome <;> simp [Except.bind, Except.map, h]

end Report

end RackElevation
