/-!
# Computations that keep a log

A `Logged` computation ends in a value or an error, and in both cases hands out the notes it took
on the way. A failure ends the computation but keeps the notes taken before it, so a log can tell
how far a text was understood. Forgetting the notes leaves an ordinary `Except`.
-/

namespace Varlink

/-- The notes of a computation, in order, and how it ended. -/
structure Logged (ν ε α : Type) where
  notes : List ν
  outcome : Except ε α

namespace Logged

variable {ν ε α β : Type}

/-- Ends in an error. -/
def fail (error : ε) : Logged ν ε α := ⟨[], .error error⟩

/-- Takes a note. -/
def note (entry : ν) : Logged ν ε Unit := ⟨[entry], .ok ()⟩

/-- Continues with the value, after the notes taken so far. -/
def andThen (x : Logged ν ε α) (f : α → Logged ν ε β) : Logged ν ε β :=
  match x.outcome with
  | .error error => ⟨x.notes, .error error⟩
  | .ok value => ⟨x.notes ++ (f value).notes, (f value).outcome⟩

instance : Monad (Logged ν ε) where
  pure value := ⟨[], .ok value⟩
  bind := andThen

/-- A computation without notes. -/
def ofExcept (result : Except ε α) : Logged ν ε α := ⟨[], result⟩

/-- Changes notes and errors. -/
def bimap {μ δ : Type} (onNote : ν → μ) (onError : ε → δ) (x : Logged ν ε α) :
    Logged μ δ α :=
  ⟨x.notes.map onNote, x.outcome.mapError onError⟩

@[simp] theorem outcome_pure (value : α) :
    (pure value : Logged ν ε α).outcome = .ok value := rfl

@[simp] theorem outcome_fail (error : ε) :
    (fail error : Logged ν ε α).outcome = .error error := rfl

@[simp] theorem outcome_note (entry : ν) :
    (note entry : Logged ν ε Unit).outcome = .ok () := rfl

@[simp] theorem outcome_ofExcept (result : Except ε α) :
    (ofExcept result : Logged ν ε α).outcome = result := rfl

/-- Sequencing acts on the outcomes as it does without a log. -/
@[simp] theorem outcome_bind (x : Logged ν ε α) (f : α → Logged ν ε β) :
    (x >>= f).outcome = x.outcome >>= fun value => (f value).outcome := by
  show (andThen x f).outcome = _
  unfold andThen
  cases x.outcome <;> rfl

@[simp] theorem outcome_bimap {μ δ : Type} (onNote : ν → μ) (onError : ε → δ)
    (x : Logged ν ε α) : (x.bimap onNote onError).outcome = x.outcome.mapError onError := rfl

end Logged

end Varlink
