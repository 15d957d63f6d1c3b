import SealedCredentials.Json.Number
import SealedCredentials.Proofs.Arithmetic.Decimal
import SealedCredentials.Proofs.Except
import Mathlib.Data.List.TakeWhile

/-!
# How numbers are spelled

A number is a sign or none, whole digits of which no zero stands in front of others, and perhaps
digits after a point and an exponent (`SpellsLiteral`).  Reading takes exactly these spellings, as
far as they go (`lexNumber_sound`, `lexNumber_complete`).  What is spelled without a point and an
exponent is an integer if 64 bits hold it; minus zero is none (`SpellsNumber`).
-/

set_option autoImplicit false

namespace SealedCredentials.Json

open Arithmetic
open Decimal (isDigit)

/-! ## Spellings -/

/-- Digits, at least one. -/
def IsDigits (digits : List Char) : Prop := digits ≠ [] ∧ ∀ c ∈ digits, isDigit c = true

/-- The digits of a whole number: no zero stands in front of others. -/
def IsWhole (digits : List Char) : Prop :=
  IsDigits digits ∧ (digits.head? = some '0' → digits = ['0'])

/-- What may stand behind the whole digits, and the digits after the point. -/
inductive SpellsPart : List Char → List Char → Prop where
  | none : SpellsPart [] []
  | point {digits : List Char} (present : IsDigits digits) : SpellsPart ('.' :: digits) digits

/-- The sign of an exponent, and whether it is a minus. -/
inductive SpellsSign : List Char → Bool → Prop where
  | none : SpellsSign [] false
  | plus : SpellsSign ['+'] false
  | minus : SpellsSign ['-'] true

/-- What may stand at the end of a number, and the exponent that it means. -/
inductive SpellsExponent : List Char → Option (Bool × List Char) → Prop where
  | none : SpellsExponent [] none
  | marked {mark : Char} {sign digits : List Char} {negative : Bool}
      (marks : mark = 'e' ∨ mark = 'E') (signed : SpellsSign sign negative)
      (present : IsDigits digits) :
      SpellsExponent (mark :: (sign ++ digits)) (some (negative, digits))

/-- The spelling of a number, and its parts. -/
inductive SpellsLiteral : List Char → Literal → Prop where
  | positive {whole point power part : List Char} {exponent : Option (Bool × List Char)}
      (isWhole : IsWhole whole) (hasPart : SpellsPart point part)
      (hasExponent : SpellsExponent power exponent) :
      SpellsLiteral (whole ++ (point ++ power)) ⟨false, whole, part, exponent⟩
  | negative {whole point power part : List Char} {exponent : Option (Bool × List Char)}
      (isWhole : IsWhole whole) (hasPart : SpellsPart point part)
      (hasExponent : SpellsExponent power exponent) :
      SpellsLiteral ('-' :: (whole ++ (point ++ power))) ⟨true, whole, part, exponent⟩

/-- A text does not go on with a digit. -/
def NoDigit (text : List Char) : Prop := ∀ c ∈ text.head?, isDigit c = false

/-- A text does not go on with anything that could belong to a number before it. -/
def EndsNumber (text : List Char) : Prop :=
  ∀ c ∈ text.head?, isDigit c = false ∧ c ≠ '.' ∧ c ≠ 'e' ∧ c ≠ 'E'

theorem endsNumber_nil : EndsNumber [] := by
  rintro _ ⟨⟩

theorem EndsNumber.noDigit {text : List Char} (ends : EndsNumber text) : NoDigit text :=
  fun c first => (ends c first).1

theorem IsDigits.digit_first {digits : List Char} (present : IsDigits digits) (rest : List Char) :
    ∀ c ∈ (digits ++ rest).head?, isDigit c = true := by
  obtain ⟨some, all⟩ := present
  cases digits with
  | nil => exact absurd rfl some
  | cons c later =>
    rintro _ ⟨⟩
    exact all c List.mem_cons_self

/-! ## Reading the parts -/

/-- Digits are read as far as they go. -/
theorem takeWhile_isDigit {digits rest : List Char} (all : ∀ c ∈ digits, isDigit c = true)
    (stops : NoDigit rest) :
    (digits ++ rest).takeWhile isDigit = digits ∧ (digits ++ rest).dropWhile isDigit = rest := by
  have short : rest.takeWhile isDigit = [] ∧ rest.dropWhile isDigit = rest := by
    cases rest with
    | nil => exact ⟨rfl, rfl⟩
    | cons c later =>
      have other : ¬isDigit c = true := by simp [stops c rfl]
      exact ⟨List.takeWhile_cons_of_neg other, List.dropWhile_cons_of_neg other⟩
  rw [List.takeWhile_append_of_pos all, List.dropWhile_append_of_pos all, short.1, short.2,
    List.append_nil]
  exact ⟨rfl, rfl⟩

theorem lexDigits_sound {text digits rest : List Char}
    (reads : lexDigits text = .ok (digits, rest)) : text = digits ++ rest ∧ IsDigits digits := by
  rw [lexDigits] at reads
  split at reads
  · cases reads
  · next present =>
    cases reads
    refine ⟨List.takeWhile_append_dropWhile.symm, ?_, fun c => List.mem_takeWhile_imp⟩
    simpa using present

theorem lexDigits_complete {digits rest : List Char} (present : IsDigits digits)
    (stops : NoDigit rest) : lexDigits (digits ++ rest) = .ok (digits, rest) := by
  obtain ⟨taken, left⟩ := takeWhile_isDigit present.2 stops
  simp only [lexDigits, taken, left]
  rw [if_neg (by simpa using present.1)]

theorem lexWhole_sound {text digits rest : List Char}
    (reads : lexWhole text = .ok (digits, rest)) : text = digits ++ rest ∧ IsWhole digits := by
  have zero : IsWhole ['0'] := ⟨⟨by simp, List.forall_mem_singleton.mpr rfl⟩, fun _ => rfl⟩
  cases text with
  | nil => cases reads
  | cons first later =>
    simp only [lexWhole.eq_def] at reads
    split at reads
    · next same =>
      obtain rfl := same
      split at reads
      · split at reads
        · cases reads
        · cases reads
          exact ⟨rfl, zero⟩
      · cases reads
        exact ⟨rfl, zero⟩
    · next other =>
      split at reads
      · next digit =>
        cases reads
        refine ⟨by rw [List.cons_append, List.takeWhile_append_dropWhile], ⟨by simp, ?_⟩, ?_⟩
        · intro c member
          rcases List.mem_cons.mp member with rfl | later
          · exact digit
          · exact List.mem_takeWhile_imp later
        · intro same
          exact absurd (Option.some.inj same) other
      · cases reads

theorem lexWhole_complete {digits rest : List Char} (isWhole : IsWhole digits)
    (stops : NoDigit rest) : lexWhole (digits ++ rest) = .ok (digits, rest) := by
  obtain ⟨⟨some, all⟩, unpadded⟩ := isWhole
  cases digits with
  | nil => exact absurd rfl some
  | cons first later =>
    simp only [List.cons_append, lexWhole.eq_def]
    by_cases zero : first = '0'
    · obtain rfl := zero
      obtain rfl : later = [] := List.cons.inj (unpadded rfl) |>.2
      rw [if_pos rfl]
      cases rest with
      | nil => rfl
      | cons c after =>
        have other : ¬isDigit c = true := by simp [stops c rfl]
        simp only [List.nil_append, if_neg other]
    · obtain ⟨taken, left⟩ :=
        takeWhile_isDigit (fun c member => all c (List.mem_cons_of_mem first member)) stops
      rw [if_neg zero, if_pos (all first List.mem_cons_self), taken, left]

theorem lexPart_sound {text part rest : List Char} (reads : lexPart text = .ok (part, rest)) :
    ∃ point, text = point ++ rest ∧ SpellsPart point part := by
  rw [lexPart.eq_def] at reads
  split at reads
  · obtain ⟨rfl, present⟩ := lexDigits_sound reads
    exact ⟨'.' :: part, rfl, .point present⟩
  · cases reads
    exact ⟨[], rfl, .none⟩

theorem lexPart_complete {point part rest : List Char} (hasPart : SpellsPart point part)
    (stops : NoDigit rest) (pointless : rest.head? ≠ some '.') :
    lexPart (point ++ rest) = .ok (part, rest) := by
  cases hasPart with
  | point present => exact lexDigits_complete present stops
  | none =>
    rw [List.nil_append, lexPart.eq_def]
    split
    · next later => exact absurd rfl pointless
    · rfl

theorem lexSign_sound {text rest : List Char} {negative : Bool}
    (reads : lexSign text = (negative, rest)) :
    ∃ sign, text = sign ++ rest ∧ SpellsSign sign negative := by
  rw [lexSign.eq_def] at reads
  split at reads
  · cases reads
    exact ⟨['-'], rfl, .minus⟩
  · cases reads
    exact ⟨['+'], rfl, .plus⟩
  · cases reads
    exact ⟨[], rfl, .none⟩

theorem lexSign_complete {sign rest : List Char} {negative : Bool}
    (signed : SpellsSign sign negative) (digit : ∀ c ∈ rest.head?, isDigit c = true) :
    lexSign (sign ++ rest) = (negative, rest) := by
  cases signed with
  | plus => rfl
  | minus => rfl
  | none =>
    rw [List.nil_append, lexSign.eq_def]
    split
    · cases digit '-' rfl
    · cases digit '+' rfl
    · rfl

theorem lexExponent_sound {text rest : List Char} {exponent : Option (Bool × List Char)}
    (reads : lexExponent text = .ok (exponent, rest)) :
    ∃ power, text = power ++ rest ∧ SpellsExponent power exponent := by
  cases text with
  | nil =>
    cases reads
    exact ⟨[], rfl, .none⟩
  | cons mark later =>
    rw [lexExponent] at reads
    split at reads
    · next marked =>
      rw [Bool.or_eq_true, decide_eq_true_eq, decide_eq_true_eq] at marked
      obtain ⟨⟨digits, after⟩, found, given⟩ := bind_eq_ok_iff.mp reads
      cases given
      obtain ⟨split, present⟩ := lexDigits_sound found
      obtain ⟨sign, whole, signed⟩ := lexSign_sound (rfl : lexSign later = _)
      rw [split] at whole
      exact ⟨mark :: (sign ++ digits), by rw [whole]; simp, .marked marked signed present⟩
    · cases reads
      exact ⟨[], rfl, .none⟩

theorem lexExponent_complete {power rest : List Char} {exponent : Option (Bool × List Char)}
    (hasExponent : SpellsExponent power exponent) (ends : EndsNumber rest) :
    lexExponent (power ++ rest) = .ok (exponent, rest) := by
  cases hasExponent with
  | none =>
    cases rest with
    | nil => rfl
    | cons c later =>
      obtain ⟨-, -, low, high⟩ := ends c rfl
      rw [List.nil_append, lexExponent, if_neg (by simp [low, high])]
  | marked marks signed present =>
    rw [List.cons_append, List.append_assoc, lexExponent, if_pos (by simpa using marks),
      lexSign_complete signed (present.digit_first rest)]
    simp only [lexDigits_complete present ends.noDigit]
    rfl

/-! ## Reading a number -/

/-- Where a point or an exponent begins, or nothing of the number is left, no digit stands. -/
theorem noDigit_of_spells {point power part rest : List Char}
    {exponent : Option (Bool × List Char)} (hasPart : SpellsPart point part)
    (hasExponent : SpellsExponent power exponent) (ends : EndsNumber rest) :
    NoDigit (point ++ (power ++ rest)) ∧ NoDigit (power ++ rest) ∧
      (power ++ rest).head? ≠ some '.' := by
  have behind : NoDigit (power ++ rest) ∧ (power ++ rest).head? ≠ some '.' := by
    cases hasExponent with
    | none => exact ⟨ends.noDigit, fun point => (ends '.' point).2.1 rfl⟩
    | marked marked =>
      rcases marked with rfl | rfl
      · exact ⟨by rintro _ ⟨⟩; rfl, by simp⟩
      · exact ⟨by rintro _ ⟨⟩; rfl, by simp⟩
  refine ⟨?_, behind⟩
  cases hasPart with
  | none => exact behind.1
  | point present =>
    rintro _ ⟨⟩
    rfl

/-- A number whose sign has been read. -/
def lexUnsigned (negative : Bool) (text : List Char) : Except Fault (Literal × List Char) := do
  let (whole, rest) ← lexWhole text
  let (part, rest) ← lexPart rest
  let (exponent, rest) ← lexExponent rest
  return (⟨negative, whole, part, exponent⟩, rest)

theorem lexNumber_minus (text : List Char) : lexNumber ('-' :: text) = lexUnsigned true text := rfl

theorem lexNumber_of_ne {text : List Char} (unsigned : text.head? ≠ some '-') :
    lexNumber text = lexUnsigned false text := by
  rw [lexNumber.eq_def]
  split
  next negative rest same =>
    split at same
    · exact absurd rfl unsigned
    · cases same
      rfl

theorem lexUnsigned_sound {negative : Bool} {text rest : List Char} {literal : Literal}
    (reads : lexUnsigned negative text = .ok (literal, rest)) :
    ∃ whole point power part exponent, text = whole ++ (point ++ power) ++ rest ∧
      IsWhole whole ∧ SpellsPart point part ∧ SpellsExponent power exponent ∧
      literal = ⟨negative, whole, part, exponent⟩ := by
  obtain ⟨⟨whole, _⟩, first, reads⟩ := bind_eq_ok_iff.mp reads
  obtain ⟨⟨part, _⟩, second, reads⟩ := bind_eq_ok_iff.mp reads
  obtain ⟨⟨exponent, _⟩, third, reads⟩ := bind_eq_ok_iff.mp reads
  cases reads
  obtain ⟨rfl, isWhole⟩ := lexWhole_sound first
  obtain ⟨point, rfl, hasPart⟩ := lexPart_sound second
  obtain ⟨power, rfl, hasExponent⟩ := lexExponent_sound third
  exact ⟨whole, point, power, part, exponent, by simp, isWhole, hasPart, hasExponent, rfl⟩

theorem lexUnsigned_complete {whole point power part rest : List Char}
    {exponent : Option (Bool × List Char)} (isWhole : IsWhole whole)
    (hasPart : SpellsPart point part) (hasExponent : SpellsExponent power exponent)
    (ends : EndsNumber rest) (negative : Bool) :
    lexUnsigned negative (whole ++ (point ++ power) ++ rest) =
      .ok (⟨negative, whole, part, exponent⟩, rest) := by
  obtain ⟨first, second, pointless⟩ := noDigit_of_spells hasPart hasExponent ends
  rw [lexUnsigned, List.append_assoc, List.append_assoc, lexWhole_complete isWhole first]
  simp only [bind, Except.bind, lexPart_complete hasPart second pointless,
    lexExponent_complete hasExponent ends]
  rfl

/-- **What is read as a number is spelled like one.** -/
theorem lexNumber_sound {text rest : List Char} {literal : Literal}
    (reads : lexNumber text = .ok (literal, rest)) :
    ∃ spelled, text = spelled ++ rest ∧ SpellsLiteral spelled literal := by
  by_cases signed : text.head? = some '-'
  · obtain ⟨later, rfl⟩ := List.head?_eq_some_iff.mp signed
    obtain ⟨whole, point, power, part, exponent, rfl, isWhole, hasPart, hasExponent, rfl⟩ :=
      lexUnsigned_sound reads
    exact ⟨'-' :: (whole ++ (point ++ power)), rfl, .negative isWhole hasPart hasExponent⟩
  · rw [lexNumber_of_ne signed] at reads
    obtain ⟨whole, point, power, part, exponent, rfl, isWhole, hasPart, hasExponent, rfl⟩ :=
      lexUnsigned_sound reads
    exact ⟨_, rfl, .positive isWhole hasPart hasExponent⟩

/-- **What is spelled like a number is read as one, up to its end.** -/
theorem lexNumber_complete {spelled rest : List Char} {literal : Literal}
    (spells : SpellsLiteral spelled literal) (ends : EndsNumber rest) :
    lexNumber (spelled ++ rest) = .ok (literal, rest) := by
  cases spells with
  | negative isWhole hasPart hasExponent =>
    rw [List.cons_append, lexNumber_minus, lexUnsigned_complete isWhole hasPart hasExponent ends]
  | positive isWhole hasPart hasExponent =>
    rw [lexNumber_of_ne, lexUnsigned_complete isWhole hasPart hasExponent ends]
    rw [List.append_assoc]
    intro signed
    cases isWhole.1.digit_first _ '-' signed

/-! ## Values -/

/-- The spelling is that of an integer which 64 bits hold.  Minus zero is none. -/
def Literal.IsInteger (literal : Literal) : Prop :=
  literal.part = [] ∧ literal.exponent = none ∧
    if literal.negative then
      0 < Decimal.value literal.whole ∧ Decimal.value literal.whole ≤ Nat.pow 2 63
    else Decimal.value literal.whole < Nat.pow 2 64

/-- The spelling of a number, and its value: an integer of 64 bits, or else a real number near to
what is spelled. -/
inductive SpellsNumber : List Char → Number → Prop where
  | natural {digits : List Char} (isWhole : IsWhole digits)
      (fits : Decimal.value digits < Nat.pow 2 64) :
      SpellsNumber digits (.natural (Decimal.value digits))
  | negative {digits : List Char} (isWhole : IsWhole digits)
      (fits : 0 < Decimal.value digits ∧ Decimal.value digits ≤ Nat.pow 2 63) :
      SpellsNumber ('-' :: digits) (.negative (Decimal.value digits))
  | real {spelled : List Char} {literal : Literal} {negative : Bool}
      {magnitude : Arithmetic.Binary64}
      (spells : SpellsLiteral spelled literal) (other : ¬literal.IsInteger)
      (rounded : literal.real = .ok (.real negative magnitude)) :
      SpellsNumber spelled (.real negative magnitude)

/-- What is spelled without a point and an exponent is an integer if 64 bits hold it. -/
theorem Literal.value_natural {digits : List Char} (fits : Decimal.value digits < Nat.pow 2 64) :
    Literal.value ⟨false, digits, [], none⟩ = .ok (.natural (Decimal.value digits)) := by
  have fits : Decimal.value digits < Nat.pow 2 64 := fits
  simp [Literal.value, fits]

theorem Literal.value_negative {digits : List Char}
    (fits : 0 < Decimal.value digits ∧ Decimal.value digits ≤ Nat.pow 2 63) :
    Literal.value ⟨true, digits, [], none⟩ = .ok (.negative (Decimal.value digits)) := by
  have fits : 0 < Decimal.value digits ∧ Decimal.value digits ≤ Nat.pow 2 63 := fits
  simp [Literal.value, fits]

/-- A rounded value is never an integer. -/
theorem Literal.exists_of_real {literal : Literal} {number : Number}
    (rounded : literal.real = .ok number) :
    ∃ magnitude, number = .real literal.negative magnitude := by
  obtain ⟨magnitude, -, same⟩ := bind_eq_ok_iff.mp rounded
  cases same
  exact ⟨magnitude, rfl⟩

/-- Whatever is no integer has a rounded value. -/
theorem Literal.value_of_not_isInteger {literal : Literal} (other : ¬literal.IsInteger) :
    literal.value = literal.real := by
  rw [Literal.value]
  split
  · next bare =>
    rw [Bool.and_eq_true, List.isEmpty_iff, Option.isNone_iff_eq_none] at bare
    rw [IsInteger, bare.1, bare.2] at other
    simp only [true_and] at other
    by_cases signed : literal.negative = true
    · rw [if_pos signed] at other ⊢
      exact if_neg (by simpa using other)
    · rw [if_neg signed] at other ⊢
      exact if_neg other
  · rfl

theorem SpellsNumber.spellsLiteral {spelled : List Char} {number : Number}
    (spells : SpellsNumber spelled number) :
    ∃ literal, SpellsLiteral spelled literal ∧ literal.value = .ok number := by
  cases spells with
  | @natural digits isWhole fits =>
    have bare := SpellsLiteral.positive isWhole .none .none
    rw [List.append_nil, List.append_nil] at bare
    exact ⟨_, bare, Literal.value_natural fits⟩
  | @negative digits isWhole fits =>
    have bare := SpellsLiteral.negative isWhole .none .none
    rw [List.append_nil, List.append_nil] at bare
    exact ⟨_, bare, Literal.value_negative fits⟩
  | real spells other rounded =>
    exact ⟨_, spells, (Literal.value_of_not_isInteger other).trans rounded⟩

/-- The spelling of an integer is that of its digits, with a minus if it is negative. -/
theorem SpellsLiteral.spellsNumber {spelled : List Char} {literal : Literal} {number : Number}
    (spells : SpellsLiteral spelled literal) (valued : literal.value = .ok number) :
    SpellsNumber spelled number := by
  by_cases integer : literal.IsInteger
  · obtain ⟨partless, bare, fits⟩ := integer
    have nothing {point power : List Char} (hasPart : SpellsPart point [])
        (hasExponent : SpellsExponent power none) : point ++ power = [] := by
      cases hasExponent
      cases hasPart with
      | none => rfl
      | point present => exact absurd rfl present.1
    cases spells with
    | positive isWhole hasPart hasExponent =>
      obtain rfl := partless
      obtain rfl := bare
      rw [Literal.value_natural fits] at valued
      cases valued
      rw [nothing hasPart hasExponent, List.append_nil]
      exact .natural isWhole fits
    | negative isWhole hasPart hasExponent =>
      obtain rfl := partless
      obtain rfl := bare
      rw [Literal.value_negative fits] at valued
      cases valued
      rw [nothing hasPart hasExponent, List.append_nil]
      exact .negative isWhole fits
  · rw [Literal.value_of_not_isInteger integer] at valued
    obtain ⟨magnitude, rfl⟩ := Literal.exists_of_real valued
    exact .real spells integer valued

/-- **What is read as a number has its spelling and its value.** -/
theorem readNumber_sound {text rest : List Char} {number : Number}
    (reads : readNumber text = .ok (number, rest)) :
    ∃ spelled, text = spelled ++ rest ∧ SpellsNumber spelled number := by
  obtain ⟨⟨literal, _⟩, lexed, reads⟩ := bind_eq_ok_iff.mp reads
  obtain ⟨value, valued, reads⟩ := bind_eq_ok_iff.mp reads
  cases reads
  obtain ⟨spelled, rfl, spells⟩ := lexNumber_sound lexed
  exact ⟨spelled, rfl, spells.spellsNumber valued⟩

/-- A spelling is read up to its end, and its value may be refused. -/
theorem readNumber_literal {spelled rest : List Char} {literal : Literal}
    (spells : SpellsLiteral spelled literal) (ends : EndsNumber rest) :
    readNumber (spelled ++ rest) = literal.value.map (·, rest) := by
  rw [readNumber, lexNumber_complete spells ends]
  simp only [bind, Except.bind]
  cases literal.value with
  | error fault => rfl
  | ok number => rfl

/-- What stands behind a number plays no part in how it is read. -/
theorem readNumber_alone {spelled rest : List Char} {literal : Literal}
    (spells : SpellsLiteral spelled literal) (ends : EndsNumber rest) :
    readNumber (spelled ++ rest) = (readNumber spelled).map fun read => (read.1, rest) := by
  have alone := readNumber_literal spells endsNumber_nil
  rw [List.append_nil] at alone
  rw [readNumber_literal spells ends, alone]
  cases literal.value with
  | error fault => rfl
  | ok number => rfl

/-- **The spelling of a number is read as its value, up to its end.** -/
theorem readNumber_complete {spelled rest : List Char} {number : Number}
    (spells : SpellsNumber spelled number) (ends : EndsNumber rest) :
    readNumber (spelled ++ rest) = .ok (number, rest) := by
  obtain ⟨literal, spelt, valued⟩ := spells.spellsLiteral
  rw [readNumber_literal spelt ends, valued]
  rfl

/-- A number begins with a minus or a digit. -/
def BeginsNumber (c : Char) : Prop := c = '-' ∨ isDigit c = true

theorem BeginsNumber.ne {c mark : Char} (first : BeginsNumber c)
    (other : mark ≠ '-' ∧ isDigit mark = false) : c ≠ mark := by
  rintro rfl
  rcases first with minus | digit
  · exact other.1 minus
  · exact Bool.false_ne_true (other.2.symm.trans digit)

theorem SpellsLiteral.begins {spelled : List Char} {literal : Literal}
    (spells : SpellsLiteral spelled literal) :
    ∃ c later, spelled = c :: later ∧ BeginsNumber c := by
  cases spells with
  | negative => exact ⟨'-', _, rfl, .inl rfl⟩
  | @positive whole point power part exponent isWhole =>
    obtain ⟨some, all⟩ := isWhole.1
    cases whole with
    | nil => exact absurd rfl some
    | cons c later => exact ⟨c, _, rfl, .inr (all c List.mem_cons_self)⟩

theorem SpellsNumber.begins {spelled : List Char} {number : Number}
    (spells : SpellsNumber spelled number) :
    ∃ c later, spelled = c :: later ∧ BeginsNumber c := by
  obtain ⟨literal, spelt, -⟩ := spells.spellsLiteral
  exact spelt.begins

/-! ## Writing -/

theorem isWhole_digits (value : Nat) : IsWhole (Decimal.digits value) := by
  refine ⟨⟨Decimal.digits_ne_nil value, Decimal.isDigit_of_mem_digits value⟩, fun zero => ?_⟩
  rw [Decimal.eq_zero_of_head?_digits zero]
  exact Decimal.digits_of_lt (by decide)

/-- **The digits of an integer of 64 bits are its spelling.** -/
theorem spellsNumber_digits {value : Nat} (fits : value < Nat.pow 2 64) :
    SpellsNumber (Decimal.digits value) (.natural value) := by
  have spells := SpellsNumber.natural (isWhole_digits value)
    (by rw [Decimal.value_digits]; exact fits)
  rwa [Decimal.value_digits] at spells

end SealedCredentials.Json
