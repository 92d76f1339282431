import Mathlib.Data.List.Forall2
import Varlink.Logged

/-!
# Outcomes

A computation that ends in a value has gone through all of its steps. The lemmas here take a
successful computation apart into these steps, for single computations and for those that treat
the items of a list one by one.

A computation that checks its input ends at the first thing that is wrong. All that is wrong makes a
list, step by step in the order of the steps, and the computation reports the head of this list.
-/

namespace Varlink

variable {ν ε α β : Type}

theorem bind_eq_ok {x : Except ε α} {f : α → Except ε β} {result : β} :
    x >>= f = .ok result ↔ ∃ value, x = .ok value ∧ f value = .ok result := by
  cases x with
  | error error => simp [bind, Except.bind]
  | ok value => simp [bind, Except.bind]

theorem bind_eq_error {x : Except ε α} {f : α → Except ε β} {error : ε} :
    x >>= f = .error error ↔ x = .error error ∨ ∃ value, x = .ok value ∧ f value = .error error := by
  cases x with
  | error error => simp [bind, Except.bind]
  | ok value => simp [bind, Except.bind]

theorem mapError_eq_ok {δ : Type} {x : Except ε α} {f : ε → δ} {value : α} :
    x.mapError f = .ok value ↔ x = .ok value := by
  cases x with
  | error error => simp [Except.mapError]
  | ok found => simp [Except.mapError]

theorem mapError_eq_error {δ : Type} {x : Except ε α} {f : ε → δ} {error : δ} :
    x.mapError f = .error error ↔ ∃ cause, x = .error cause ∧ f cause = error := by
  cases x with
  | error cause => simp [Except.mapError]
  | ok found => simp [Except.mapError]

theorem ok_of_toOption {x : Except ε α} {value : α} (h : x.toOption = some value) :
    x = .ok value := by
  cases x with
  | error error => cases h
  | ok other => rw [Option.some.inj h]

theorem error_of_toOption {x : Except ε α} (h : x.toOption = none) : ∃ error, x = .error error := by
  cases x with
  | error error => exact ⟨error, rfl⟩
  | ok other => cases h

/-- The items of a list are mapped one by one, and each of them to a value. -/
theorem mapM_eq_ok {f : α → Except ε β} {items : List α} {results : List β} :
    items.mapM f = .ok results ↔
      List.Forall₂ (fun item result => f item = .ok result) items results := by
  induction items generalizing results with
  | nil =>
      rw [List.mapM_nil, List.forall₂_nil_left_iff]
      constructor
      · intro h
        exact (Except.ok.inj h).symm
      · rintro rfl
        rfl
  | cons item items ih =>
      rw [List.mapM_cons, List.forall₂_cons_left_iff, bind_eq_ok]
      constructor
      · rintro ⟨first, mapped, h⟩
        obtain ⟨rest, others, h⟩ := bind_eq_ok.mp h
        exact ⟨first, rest, mapped, ih.mp others, (Except.ok.inj h).symm⟩
      · rintro ⟨first, rest, mapped, others, rfl⟩
        exact ⟨first, mapped, bind_eq_ok.mpr ⟨rest, ih.mpr others, rfl⟩⟩

/-- A list can be mapped if each of its items can. -/
theorem exists_mapM {f : α → Except ε β} {items : List α} :
    (∃ results, items.mapM f = .ok results) ↔ ∀ item ∈ items, ∃ result, f item = .ok result := by
  induction items with
  | nil => exact ⟨fun _ _ inside => (List.not_mem_nil inside).elim, fun _ => ⟨[], rfl⟩⟩
  | cons item items ih =>
      rw [List.forall_mem_cons, ← ih]
      simp only [mapM_eq_ok, List.forall₂_cons_left_iff]
      constructor
      · rintro ⟨_, first, rest, mapped, others, rfl⟩
        exact ⟨⟨first, mapped⟩, rest, others⟩
      · rintro ⟨⟨first, mapped⟩, rest, others⟩
        exact ⟨_, first, rest, mapped, others, rfl⟩

/-- What each step keeps of its item, the whole list keeps. -/
theorem map_eq_of_mapM {γ : Type} {f : α → Except ε β} {items : List α} {results : List β}
    {g : β → γ} {k : α → γ} (each : ∀ item result, f item = .ok result → g result = k item)
    (h : items.mapM f = .ok results) : results.map g = items.map k := by
  induction mapM_eq_ok.mp h with
  | nil => rfl
  | @cons item result items results mapped others ih =>
      have tail := ih (mapM_eq_ok.mpr others)
      rw [List.map_cons, List.map_cons, each item result mapped, tail]

/-- What each step makes sure of holds for all results. -/
theorem forall_of_mapM {f : α → Except ε β} {items : List α} {results : List β} {P : β → Prop}
    (each : ∀ item result, f item = .ok result → P result) (h : items.mapM f = .ok results) :
    ∀ result ∈ results, P result := by
  induction mapM_eq_ok.mp h with
  | nil =>
      intro result inside
      cases inside
  | @cons item result items results mapped others ih =>
      have head := each item result mapped
      have tail := ih (mapM_eq_ok.mpr others)
      exact List.forall_mem_cons.mpr ⟨head, tail⟩

/-- The computation ends in the first of the failures, and in a value if there is none. -/
def Reports (x : Except ε α) : (failures : List ε) → Prop
  | [] => ∃ value, x = .ok value
  | first :: _ => x = .error first

theorem reports_ok (value : α) : Reports (.ok value : Except ε α) [] := ⟨value, rfl⟩

theorem reports_error (error : ε) : Reports (.error error : Except ε α) [error] := rfl

section Reports

variable {x : Except ε α} {failures more : List ε}

/-- What is wrong in a second step matters only if nothing is wrong in the first. -/
theorem Reports.bind {f : α → Except ε β} (first : Reports x failures)
    (second : ∀ value, x = .ok value → Reports (f value) more) :
    Reports (x >>= f) (failures ++ more) := by
  cases failures with
  | nil =>
      obtain ⟨value, rfl⟩ := first
      exact second value rfl
  | cons error failures =>
      obtain rfl : x = .error error := first
      rfl

/-- A last step that cannot fail adds no failure. -/
theorem Reports.map (first : Reports x failures) (f : α → β) :
    Reports (x >>= fun value => pure (f value)) failures := by
  have both := first.bind (f := fun value => pure (f value)) fun value _ => reports_ok (f value)
  rwa [List.append_nil] at both

/-- The items of a list are checked from left to right. -/
theorem Reports.mapM {f : α → Except ε β} {wrong : α → List ε} {items : List α}
    (each : ∀ item ∈ items, Reports (f item) (wrong item)) :
    Reports (items.mapM f) (items.flatMap wrong) := by
  induction items with
  | nil => exact reports_ok []
  | cons item items ih =>
      obtain ⟨head, tail⟩ := List.forall_mem_cons.mp each
      rw [List.mapM_cons, List.flatMap_cons]
      exact head.bind fun value _ => (ih tail).map (value :: ·)

end Reports

theorem Logged.outcome_bind_eq_ok {x : Logged ν ε α} {f : α → Logged ν ε β} {result : β} :
    (x >>= f).outcome = .ok result ↔
      ∃ value, x.outcome = .ok value ∧ (f value).outcome = .ok result := by
  rw [outcome_bind, bind_eq_ok]

theorem Logged.outcome_bind_eq_error {x : Logged ν ε α} {f : α → Logged ν ε β} {error : ε} :
    (x >>= f).outcome = .error error ↔ x.outcome = .error error ∨
      ∃ value, x.outcome = .ok value ∧ (f value).outcome = .error error := by
  rw [outcome_bind, bind_eq_error]

/-- Where the last steps cannot fail, it was the first one that did. -/
theorem Logged.error_of_bind {x : Logged ν ε α} {f : α → Logged ν ε β} {error : ε}
    (fails : (x >>= f).outcome = .error error)
    (rest : ∀ value, ∃ result, (f value).outcome = .ok result) : x.outcome = .error error := by
  rcases outcome_bind_eq_error.mp fails with first | ⟨value, -, second⟩
  · exact first
  · obtain ⟨result, done⟩ := rest value
    rw [done] at second
    cases second

/-- What is done after something else is done in the state that this leaves behind. -/
theorem run_bind_of_run {σ : Type} {first : StateM σ α} {next : α → StateM σ β}
    {before after : σ} {value : α} (h : first.run before = (value, after)) :
    (first >>= next).run before = (next value).run after := by
  rw [StateT.run_bind, h]
  rfl

end Varlink
