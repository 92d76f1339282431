/-!
# What a reader leaves behind

A reader takes a value off the front of a list. Its result carries the rest of the list together
with the fact that something was taken, so that a reader that calls itself on the rest ends without
further argument. Results are put together by looking at them from a longer list, and the lemmas
about lengths say all that is needed for this.
-/

namespace Varlink

section Lengths

variable {τ : Type} {token next : τ} {rest after start : List τ}

theorem length_tail_lt (token : τ) (rest : List τ) : rest.length < (token :: rest).length :=
  Nat.lt_succ_self _

theorem length_le_self (input : List τ) : input.length ≤ input.length := Nat.le_refl _

theorem length_lt_cons (h : after.length < rest.length) (token : τ) :
    after.length < (token :: rest).length :=
  Nat.lt_succ_of_lt h

theorem length_lt_of_cons (h : (token :: after).length < rest.length) :
    after.length < rest.length :=
  Nat.lt_of_succ_lt h

theorem length_lt_of_lt_cons (shorter : after.length < rest.length)
    (h : (token :: rest).length < start.length) : after.length < start.length :=
  Nat.lt_trans shorter (length_lt_of_cons h)

theorem length_le_of_cons (h : (token :: rest).length ≤ start.length) :
    rest.length ≤ start.length :=
  Nat.le_of_succ_le h

theorem length_le_of_cons_cons (h : (token :: next :: rest).length ≤ start.length) :
    rest.length ≤ start.length :=
  length_le_of_cons (length_le_of_cons h)

theorem length_le_of_lt_cons (shorter : after.length < rest.length)
    (h : (token :: rest).length ≤ start.length) : after.length ≤ start.length :=
  Nat.le_trans (Nat.le_of_lt shorter) (length_le_of_cons h)

theorem length_le_of_lt_cons_cons (shorter : after.length < rest.length)
    (h : (token :: next :: rest).length ≤ start.length) : after.length ≤ start.length :=
  length_le_of_lt_cons shorter (length_le_of_cons h)

end Lengths

/-- A value read from `input`, and the rest, which is shorter. -/
structure Found {τ : Type} (α : Type) (input : List τ) where
  value : α
  rest : List τ
  shorter : rest.length < input.length

namespace Found

variable {τ α β : Type} {token : τ} {input : List τ}

/-- A value read from the first element. -/
def head (value : α) : Found α (token :: input) := ⟨value, input, length_tail_lt token input⟩

/-- Changes the value and keeps the rest. -/
def map (f : α → β) (found : Found α input) : Found β input :=
  ⟨f found.value, found.rest, found.shorter⟩

/-- The same result, seen from a list that is not shorter. -/
def within {longer : List τ} (found : Found α input) (h : input.length ≤ longer.length) :
    Found α longer :=
  ⟨found.value, found.rest, Nat.lt_of_lt_of_le found.shorter h⟩

/-- The same result, seen from a list of which `input` is the rest. -/
def behind {longer : List τ} (found : Found α input) (shorter : input.length < longer.length) :
    Found α longer :=
  ⟨found.value, found.rest, Nat.lt_trans found.shorter shorter⟩

/-- The same result, seen from a list with one more element in front. -/
def afterHead (found : Found α input) : Found α (token :: input) :=
  found.behind (length_tail_lt token input)

end Found

end Varlink
