import SealedCredentials.Arithmetic.Decimal
import SealedCredentials.Proofs.Text.Blank

/-!
# Decimal texts are read back

The digits of a number spell it (`value_digits`), all of them are digits and none is blank,
so the text that is written for a number is read as that number (`parse_ofNat`).  Any other text is
read as the number that it spells, if it spells one (`parse_eq_ok_iff`).
-/

set_option autoImplicit false

namespace SealedCredentials.Arithmetic.Decimal

/-! ## Single digits -/

/-- The digit of a value below ten is a digit and has that value. -/
theorem digit_spec : ∀ value : Fin 10,
    isDigit (digit value) = true ∧ digitValue (digit value) = value := by
  decide

theorem isDigit_digit {value : Nat} (small : value < 10) : isDigit (digit value) = true :=
  (digit_spec ⟨value, small⟩).1

theorem digitValue_digit {value : Nat} (small : value < 10) :
    digitValue (digit value) = value :=
  (digit_spec ⟨value, small⟩).2

/-- The digits are the characters from 48 to 57. -/
theorem isDigit_iff (c : Char) : isDigit c = true ↔ 48 ≤ c.toNat ∧ c.toNat ≤ 57 := by
  simp only [isDigit, Bool.and_eq_true, decide_eq_true_eq, Char.le_def, UInt32.le_iff_toNat_le]
  rfl

/-- No digit is blank. -/
theorem isBlank_of_isDigit {c : Char} (digit : isDigit c = true) : Text.isBlank c = false := by
  have bounds := (isDigit_iff c).mp digit
  simp only [Text.isBlank, Bool.or_eq_false_iff, Bool.and_eq_false_iff, decide_eq_false_iff_not,
    beq_eq_false_iff_ne]
  omega

/-! ## The digits of a number -/

theorem digits_of_lt {number : Nat} (small : number < 10) : digits number = [digit number] := by
  rw [digits, if_pos small]

theorem digits_of_ge {number : Nat} (large : 10 ≤ number) :
    digits number = digits (number / 10) ++ [digit (number % 10)] := by
  rw [digits, if_neg (by omega)]

/-- One more digit multiplies by ten and adds its value. -/
theorem value_append_singleton (digits : List Char) (c : Char) :
    value (digits ++ [c]) = value digits * 10 + digitValue c := by
  rw [value, List.foldl_append]
  rfl

/-- The digits of a number are digits. -/
theorem isDigit_of_mem_digits (number : Nat) : ∀ c ∈ digits number, isDigit c = true := by
  induction number using Nat.strongRecOn with
  | ind number ih =>
    intro c member
    by_cases small : number < 10
    · rw [digits_of_lt small, List.mem_singleton] at member
      rw [member]
      exact isDigit_digit small
    · rw [digits_of_ge (by omega), List.mem_append, List.mem_singleton] at member
      rcases member with front | last
      · exact ih (number / 10) (by omega) c front
      · rw [last]
        exact isDigit_digit (Nat.mod_lt _ (by omega))

/-- Every number has a digit. -/
theorem digits_ne_nil (number : Nat) : digits number ≠ [] := by
  by_cases small : number < 10
  · rw [digits_of_lt small]
    exact List.cons_ne_nil _ _
  · rw [digits_of_ge (by omega)]
    exact List.append_ne_nil_of_right_ne_nil _ (List.cons_ne_nil _ _)

/-- The digits of a number begin with a zero only if the number is zero. -/
theorem eq_zero_of_head?_digits {number : Nat} (zero : (digits number).head? = some '0') :
    number = 0 := by
  induction number using Nat.strongRecOn with
  | ind number ih =>
    by_cases small : number < 10
    · rw [digits_of_lt small] at zero
      rw [← digitValue_digit small, Option.some.inj zero]
      rfl
    -- the digits begin with those of a tenth, which would have to be zero
    · rw [digits_of_ge (by omega), List.head?_append, List.head?_eq_some_head (digits_ne_nil _),
        Option.some_or, ← List.head?_eq_some_head] at zero
      have nothing := ih (number / 10) (by omega) zero
      omega

/-- **The digits of a number spell it.** -/
theorem value_digits (number : Nat) : value (digits number) = number := by
  induction number using Nat.strongRecOn with
  | ind number ih =>
    by_cases small : number < 10
    · rw [digits_of_lt small, ← List.nil_append [digit number], value_append_singleton,
        digitValue_digit small]
      exact Nat.zero_add number
    · rw [digits_of_ge (by omega), value_append_singleton, ih _ (by omega),
        digitValue_digit (Nat.mod_lt _ (by omega))]
      omega

/-- **The text of a number is read as that number.** -/
theorem parse_ofNat (number : Nat) : parse (ofNat number) = .ok number := by
  have whole : Text.trimmed (ofNat number).toList = digits number := by
    rw [ofNat, String.toList_ofList]
    exact Text.trimmed_of_forall fun c member =>
      isBlank_of_isDigit (isDigit_of_mem_digits number c member)
  have nonempty : (digits number).isEmpty = false :=
    List.isEmpty_eq_false_iff.mpr (digits_ne_nil number)
  have all : (digits number).all isDigit = true :=
    List.all_eq_true.mpr (isDigit_of_mem_digits number)
  simp only [parse, whole, nonempty, all, Bool.false_eq_true, if_false, if_true, value_digits]

/-! ## Texts that spell a number -/

/-- A text spells a number: without the blank characters around it, it is one or more digits, and
their value is the number. -/
def Spells (text : String) (number : Nat) : Prop :=
  Text.trimmed text.toList ≠ [] ∧ (∀ c ∈ Text.trimmed text.toList, '0' ≤ c ∧ c ≤ '9') ∧
    number = value (Text.trimmed text.toList)

/-- **A text is read as the number that it spells**, and as none if it spells none. -/
theorem parse_eq_ok_iff {text : String} {number : Nat} :
    parse text = .ok number ↔ Spells text number := by
  unfold parse Spells
  by_cases empty : Text.trimmed text.toList = []
  · simp [empty]
  · have nonempty : (Text.trimmed text.toList).isEmpty = false :=
      List.isEmpty_eq_false_iff.mpr empty
    by_cases all : (Text.trimmed text.toList).all isDigit = true
    · have digits : ∀ c ∈ Text.trimmed text.toList, '0' ≤ c ∧ c ≤ '9' := by
        simpa only [List.all_eq_true, isDigit, Bool.and_eq_true, decide_eq_true_eq] using all
      simp only [nonempty, all, Bool.false_eq_true, if_false, if_true, Except.ok.injEq]
      exact ⟨fun same => ⟨empty, digits, same.symm⟩, fun spells => spells.2.2.symm⟩
    · simp only [nonempty, all, Bool.false_eq_true, if_false, reduceCtorEq, false_iff]
      rintro ⟨-, digits, -⟩
      refine all (List.all_eq_true.mpr fun c member => ?_)
      simpa only [isDigit, Bool.and_eq_true, decide_eq_true_eq] using digits c member

end SealedCredentials.Arithmetic.Decimal
