import Mathlib.Data.Nat.Notation
import Varlink.Json.Writer
import Varlink.Proofs.Json.Strings

/-!
# Integers read back

An integer is written in decimal digits, without a zero in front of others, and its digits are read as
long as there are any. So it is read back wherever no further digit follows, nor anything else that
would go on with a number, and it stays an integer as long as it fits into 64 bits.
-/

namespace Varlink

namespace Json

/-- The value of a number that further digits are added to. -/
def addDigits (value : Nat) (digits : List UInt8) : Nat :=
  digits.foldl (fun value digit => value * 10 + digitValue digit) value

/-- The decimal digits of a number, with no zero in front of others. -/
structure IsDecimal (digits : List UInt8) (value : Nat) : Prop where
  nonempty : digits ≠ []
  each : ∀ digit ∈ digits, isDigit digit
  amount : addDigits 0 digits = value
  leading : digits.head? = some zero → value = 0 ∧ digits = [zero]

theorem utf8Bytes_digitChar : ∀ value < 10,
    utf8Bytes (String.singleton (Nat.digitChar value)) = [UInt8.ofNat (0x30 + value)] ∧
      isDigit (UInt8.ofNat (0x30 + value)) ∧ digitValue (UInt8.ofNat (0x30 + value)) = value ∧
        (UInt8.ofNat (0x30 + value) = zero → value = 0) := by
  decide +kernel

/-- Numbers are written in decimal digits. -/
theorem isDecimal_repr (value : Nat) : IsDecimal (utf8Bytes value.repr) value := by
  induction value using Nat.strongRecOn with
  | ind value ih =>
      obtain ⟨written, digit, same, notZero⟩ :=
        utf8Bytes_digitChar (value % 10) (Nat.mod_lt value (by decide))
      by_cases small : value < 10
      · rw [Nat.mod_eq_of_lt small] at written digit same notZero
        rw [Nat.repr_of_lt small, written]
        exact {
          nonempty := List.cons_ne_nil _ _
          each := List.forall_mem_singleton.mpr digit
          amount := by
            rw [addDigits, List.foldl_cons, List.foldl_nil, same, Nat.zero_mul, Nat.zero_add]
          leading := fun isZero => by
            have isZero := Option.some.inj isZero
            exact ⟨notZero isZero, by rw [isZero]⟩ }
      · have front := ih (value / 10) (by omega)
        rw [Nat.repr_of_ge (Nat.le_of_not_lt small), utf8Bytes_append, written]
        exact {
          nonempty := List.append_ne_nil_of_left_ne_nil front.nonempty _
          each := List.forall_mem_append.mpr
            ⟨front.each, List.forall_mem_singleton.mpr digit⟩
          amount := by
            have front := front.amount
            rw [addDigits] at front
            rw [addDigits, List.foldl_append, front, List.foldl_cons, List.foldl_nil, same]
            omega
          leading := fun isZero => by
            rw [List.head?_append_of_ne_nil _ front.nonempty] at isZero
            have := (front.leading isZero).1
            omega }

theorem le_addDigits (value : Nat) (digits : List UInt8) : value ≤ addDigits value digits := by
  induction digits generalizing value with
  | nil => exact Nat.le_refl _
  | cons digit digits ih =>
      have step := ih (value * 10 + digitValue digit)
      rw [addDigits, List.foldl_cons]
      rw [addDigits] at step
      omega

/-- All digits count if the number fits. -/
theorem significand_eq {value : Nat} {digits : List UInt8}
    (fits : addDigits value digits ≤ maxSignificand) :
    significand value digits = (addDigits value digits, digits.length) := by
  induction digits generalizing value with
  | nil => rfl
  | cons digit digits ih =>
      have here := Nat.le_trans (le_addDigits (value * 10 + digitValue digit) digits) fits
      rw [significand]
      dsimp only
      rw [if_pos here, ih fits]
      rfl

/-- What may follow a number: nothing that would go on with it. -/
def Ends (rest : List UInt8) : Prop :=
  ∀ byte ∈ rest.head?, isDigit byte = false ∧ byte ≠ point ∧ byte ≠ lowerE ∧ byte ≠ upperE

section Read

variable {digits rest : List UInt8} {value : Nat}

theorem gives_readWhole (decimal : IsDecimal digits value) (ends : Ends rest) (atEnd : JsonFault) :
    Gives (readWhole atEnd (digits ++ rest)) digits rest := by
  obtain ⟨first, more, rfl⟩ := List.exists_cons_of_ne_nil decimal.nonempty
  obtain ⟨firstDigit, moreDigits⟩ := List.forall_mem_cons.mp decimal.each
  rw [List.cons_append, readWhole.eq_def]
  dsimp only
  by_cases isZero : first = zero
  · obtain ⟨-, same⟩ := decimal.leading (congrArg some isZero)
    obtain rfl := (List.cons.inj same).2
    rw [if_pos isZero]
    cases rest with
    | nil => exact ⟨_, rfl⟩
    | cons next rest =>
        obtain ⟨notDigit, -⟩ := ends next rfl
        simp only [List.nil_append, notDigit]
        exact ⟨_, rfl⟩
  · have stops : rest.takeWhile isDigit = [] ∧ rest.dropWhile isDigit = rest := by
      cases rest with
      | nil => exact ⟨rfl, rfl⟩
      | cons next rest => simp [(ends next rfl).1]
    rw [if_neg isZero, if_pos firstDigit, takeDigits]
    have shorter : rest.length < (first :: more ++ rest).length := by
      rw [List.length_append, List.length_cons]
      omega
    refine ⟨shorter, ?_⟩
    simp [List.takeWhile_append_of_pos moreDigits, List.dropWhile_append_of_pos moreDigits, stops]
    rfl

theorem gives_readLiteral (decimal : IsDecimal digits value) (ends : Ends rest) (atEnd : JsonFault) :
    Gives (readLiteral atEnd (digits ++ rest)) ⟨digits, none, none⟩ rest := by
  refine (gives_readWhole decimal ends atEnd).bind fun shorter => ?_
  cases rest with
  | nil => exact ⟨_, rfl⟩
  | cons byte rest =>
      obtain ⟨-, notPoint, notLower, notUpper⟩ := ends byte rfl
      dsimp only
      rw [if_neg notPoint, readTail, if_neg (by simp [notLower, notUpper])]
      exact ⟨_, rfl⟩

/-- The digits of an integer that fits are read back as this integer. -/
theorem gives_readNumber (negative : Bool) (decimal : IsDecimal digits value) (ends : Ends rest)
    (fits : value ≤ maxSignificand) (fitsNegative : negative → 0 < value ∧ value ≤ maxNegative) :
    Gives (readNumber negative (digits ++ rest))
      (.integer (if negative then -value else value)) rest := by
  refine (gives_readLiteral decimal ends .endInValue).bind fun shorter => ?_
  have counted : significand 0 digits = (value, digits.length) := by
    rw [significand_eq (decimal.amount.symm ▸ fits), decimal.amount]
  have isInteger : NumberLiteral.value? negative ⟨digits, none, none⟩ =
      some (.integer (if negative then -value else value)) := by
    rw [NumberLiteral.value?, counted]
    dsimp only
    rw [Nat.sub_self]
    cases negative with
    | false => rfl
    | true =>
        obtain ⟨positive, fitsNegative⟩ := fitsNegative rfl
        have notDouble : ¬ (value = 0 ∨ maxNegative < value) := by omega
        simp [notDouble]
  dsimp only
  rw [isInteger]
  exact ⟨_, rfl⟩

end Read

end Json

end Varlink
