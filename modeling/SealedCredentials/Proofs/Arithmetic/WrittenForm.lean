import SealedCredentials.Fault
import SealedCredentials.Proofs.Arithmetic.Decimal
import SealedCredentials.Proofs.Text.Utf8
import Mathlib.Data.List.Induction
import Mathlib.Data.Nat.Digits.Defs

/-!
# Every integer has one written form

A decimal text may have blank characters around its digits and zeros in front of them.  Once it is
read, nothing of this is left: what is written for the number is the digits without the zeros in
front (`digits_value`), so two sides that derive keys from written numbers do not depend on how a
number was spelled to them.

A text is refused by a look at its characters, before any digit is converted.  To say so, the
reading is run once more over the bytes of the text, with a conversion of digits that may refuse
them itself (`readBytes`).  Whatever else such a conversion takes (signs, marks between digits,
other letters), it only ever gets what has passed the look, and never refuses that
(`readBytes_eq`).  `one_written_form` puts all of this together.
-/

set_option autoImplicit false

namespace SealedCredentials.Arithmetic.Decimal

variable {characters : List Char}

/-! ## Place value -/

/-- The last digit counts once, and each digit ten times as much as the one behind it. -/
theorem value_eq_ofDigits (characters : List Char) :
    value characters = Nat.ofDigits 10 (characters.reverse.map digitValue) := by
  induction characters using List.reverseRecOn with
  | nil => rfl
  | append_singleton front last ih =>
    rw [value_append_singleton, List.reverse_append, List.reverse_singleton, List.singleton_append,
      List.map_cons, Nat.ofDigits_cons, ← ih, Nat.mul_comm, Nat.add_comm]

/-- A digit is written for its value. -/
theorem digit_digitValue {c : Char} (isDigit : isDigit c = true) :
    digitValue c < 10 ∧ digit (digitValue c) = c := by
  have bounds := (isDigit_iff c).mp isDigit
  have zero : '0'.toNat = 48 := rfl
  constructor
  · rw [digitValue, zero]
    omega
  · rw [digit, digitValue, zero, Nat.add_sub_cancel' bounds.1, Char.ofNat_toNat]

/-- Only the digit zero has the value zero. -/
theorem eq_zero_of_digitValue {c : Char} (isDigit : isDigit c = true) (zero : digitValue c = 0) :
    c = '0' := by
  rw [← (digit_digitValue isDigit).2, zero]
  rfl

/-! ## Zeros in front -/

/-- Zeros in front do not count. -/
theorem value_dropWhile_zero (characters : List Char) :
    value (characters.dropWhile (· == '0')) = value characters := by
  induction characters with
  | nil => rfl
  | cons first later ih =>
    by_cases zero : first = '0'
    · obtain rfl := zero
      rw [List.dropWhile_cons_of_pos (by decide), ih]
      rfl
    · rw [List.dropWhile_cons_of_neg (by simpa using zero)]

/-- Digits of which the first is not zero spell a positive number. -/
theorem value_pos {first : Char} {later : List Char} (isDigit : isDigit first = true)
    (nonzero : first ≠ '0') : 0 < value (first :: later) := by
  induction later using List.reverseRecOn with
  | nil =>
    have positive : digitValue first ≠ 0 := fun zero => nonzero (eq_zero_of_digitValue isDigit zero)
    have single : value [first] = 0 * 10 + digitValue first := rfl
    omega
  | append_singleton later last ih =>
    rw [← List.cons_append, value_append_singleton]
    omega

/-- **Digits without a zero in front are what is written for their value.** -/
theorem digits_value_of_head {first : Char} {later : List Char}
    (all : ∀ c ∈ first :: later, isDigit c = true) (nonzero : first ≠ '0') :
    digits (value (first :: later)) = first :: later := by
  induction later using List.reverseRecOn with
  | nil =>
    obtain ⟨small, same⟩ := digit_digitValue (all first List.mem_cons_self)
    have single : value [first] = digitValue first := Nat.zero_add _
    rw [single, digits_of_lt small, same]
  | append_singleton later last ih =>
    rw [← List.cons_append] at all ⊢
    have front := ih fun c member => all c (List.mem_append_left _ member)
    have positive : 0 < value (first :: later) :=
      value_pos (all first (List.mem_append_left _ List.mem_cons_self)) nonzero
    obtain ⟨small, same⟩ := digit_digitValue (all last (by simp))
    have tens : (value (first :: later) * 10 + digitValue last) / 10 = value (first :: later) := by
      omega
    have units : (value (first :: later) * 10 + digitValue last) % 10 = digitValue last := by
      omega
    rw [value_append_singleton, digits_of_ge (by omega), tens, units, front, same]

/-- Digits without the zeros in front; one zero stays if there is nothing else. -/
def unpadded (characters : List Char) : List Char :=
  if characters.dropWhile (· == '0') = [] then ['0'] else characters.dropWhile (· == '0')

/-- **What is written for the value of digits are the digits without the zeros in front.** -/
theorem digits_value (all : ∀ c ∈ characters, isDigit c = true) :
    digits (value characters) = unpadded characters := by
  have first := List.head?_dropWhile_not (· == '0') characters
  have kept : ∀ c ∈ characters.dropWhile (· == '0'), isDigit c = true :=
    fun c member => all c ((List.dropWhile_sublist _).subset member)
  rw [← value_dropWhile_zero, unpadded]
  cases left : characters.dropWhile (· == '0') with
  | nil => exact digits_of_lt (by decide)
  | cons c later =>
    rw [left] at first kept
    rw [if_neg (List.cons_ne_nil c later)]
    exact digits_value_of_head kept (by simpa using first)

/-! ## What is refused -/

/-- **A text that spells no number is refused for what it is**: nothing but blank characters, or
something else than digits, of which the first 32 characters are shown. -/
theorem parse_of_trims {text : String} (trims : Text.Trims text.toList characters) :
    parse text =
      if characters = [] then .error .empty
      else if characters.all isDigit then .ok (value characters)
      else .error (.notDecimal (String.ofList (characters.take 32))) := by
  rw [parse, Text.trimmed_eq_iff.mpr trims]
  simp only [List.isEmpty_iff]

/-! ## Reading from bytes -/

/-- An ASCII digit as a byte. -/
def isDigitByte (byte : UInt8) : Bool := 0x30 ≤ byte && byte ≤ 0x39

/-- What refuses a text: a look at its characters, or the conversion of its digits. -/
inductive Refusal where
  | looked (cause : Fault)
  | converted (cause : Fault)

/-- The number of a text, read from its bytes.  The conversion may refuse what it gets. -/
def readBytes (convert : List UInt8 → Option Nat) (text : String) : Except Refusal Nat :=
  let digits := Text.trim text
  let bytes := Text.Utf8.ofString digits
  if bytes.isEmpty then .error (.looked .empty)
  else if bytes.all isDigitByte then
    match convert bytes with
    | some number => .ok number
    | none => .error (.converted (.notDecimal (String.ofList (digits.toList.take 32))))
  else .error (.looked (.notDecimal (String.ofList (digits.toList.take 32))))

/-- A conversion knows digits by their place value.  It may take other bytes as well. -/
def Converts (convert : List UInt8 → Option Nat) : Prop :=
  ∀ bytes, bytes ≠ [] → (∀ byte ∈ bytes, isDigitByte byte = true) →
    convert bytes = some (Nat.ofDigits 10 (bytes.reverse.map fun byte => byte.toNat - 0x30))

theorem isDigitByte_iff (byte : UInt8) :
    isDigitByte byte = true ↔ 48 ≤ byte.toNat ∧ byte.toNat ≤ 57 := by
  simp only [isDigitByte, Bool.and_eq_true, decide_eq_true_eq, UInt8.le_iff_toNat_le]
  rfl

/-- A digit is one byte. -/
theorem encodeChar_of_isDigit {c : Char} (digit : isDigit c = true) :
    Text.Utf8.encodeChar c = [UInt8.ofNat c.toNat] ∧ (UInt8.ofNat c.toNat).toNat = c.toNat := by
  have bounds := (isDigit_iff c).mp digit
  refine ⟨?_, Text.Utf8.toNat_ofNat _ (by omega)⟩
  rw [Text.Utf8.encodeChar, if_pos (by omega)]

/-- A character has a digit among its bytes only if it is one: the bytes of a character outside
ASCII are all outside ASCII. -/
theorem isDigit_of_encodeChar {c : Char}
    (all : ∀ byte ∈ Text.Utf8.encodeChar c, isDigitByte byte = true) : isDigit c = true := by
  have form := Text.Utf8.form_encodeChar c
  generalize Text.Utf8.encodeChar c = bytes at all form
  generalize spelled : c.toNat = point at form
  cases form with
  | @one a _ lead same =>
    have bounds := (isDigitByte_iff a).mp (all a (by simp))
    exact (isDigit_iff c).mpr (by omega)
  | @two a _ _ lead =>
    have bounds := (isDigitByte_iff a).mp (all a (by simp))
    omega
  | @three a _ _ _ lead =>
    have bounds := (isDigitByte_iff a).mp (all a (by simp))
    omega
  | @four a _ _ _ _ lead =>
    have bounds := (isDigitByte_iff a).mp (all a (by simp))
    omega

/-- Every character has a byte. -/
theorem encode_eq_nil_iff : Text.Utf8.encode characters = [] ↔ characters = [] := by
  cases characters with
  | nil => exact iff_of_true rfl rfl
  | cons c later =>
    refine iff_of_false (fun none => ?_) (List.cons_ne_nil c later)
    rw [Text.Utf8.encode, List.flatMap_cons, List.append_eq_nil_iff] at none
    have form := Text.Utf8.form_encodeChar c
    rw [none.1] at form
    cases form

/-- All bytes of a text are digits exactly if all its characters are. -/
theorem forall_isDigitByte_iff (characters : List Char) :
    (∀ byte ∈ Text.Utf8.encode characters, isDigitByte byte = true) ↔
      ∀ c ∈ characters, isDigit c = true := by
  simp only [Text.Utf8.encode, List.mem_flatMap, forall_exists_index, and_imp]
  constructor
  · intro bytes c member
    exact isDigit_of_encodeChar fun byte => bytes byte c member
  · intro all byte c member inside
    obtain ⟨single, same⟩ := encodeChar_of_isDigit (all c member)
    rw [single, List.mem_singleton] at inside
    rw [inside, isDigitByte_iff, same]
    exact (isDigit_iff c).mp (all c member)

/-- The bytes of digits have their values. -/
theorem map_encode_of_isDigit (all : ∀ c ∈ characters, isDigit c = true) :
    (Text.Utf8.encode characters).map (fun byte => byte.toNat - 0x30) =
      characters.map digitValue := by
  induction characters with
  | nil => rfl
  | cons first later ih =>
    obtain ⟨single, same⟩ := encodeChar_of_isDigit (all first List.mem_cons_self)
    have rest := ih fun c member => all c (List.mem_cons_of_mem _ member)
    rw [Text.Utf8.encode, List.flatMap_cons, ← Text.Utf8.encode, single, List.singleton_append,
      List.map_cons, rest, same]
    rfl

/-- **The conversion never refuses what it gets**, and the reading from bytes comes to the same. -/
theorem readBytes_eq {convert : List UInt8 → Option Nat} (converts : Converts convert)
    (text : String) : readBytes convert text = (parse text).mapError .looked := by
  have bytes : Text.Utf8.ofString (Text.trim text) =
      Text.Utf8.encode (Text.trimmed text.toList) := by
    rw [Text.Utf8.ofString, Text.trim, String.toList_ofList]
  have shown : (Text.trim text).toList = Text.trimmed text.toList := String.toList_ofList
  have empty : Text.Utf8.encode (Text.trimmed text.toList) = [] ↔ Text.trimmed text.toList = [] :=
    encode_eq_nil_iff
  simp only [readBytes, parse, bytes, shown]
  generalize Text.trimmed text.toList = characters at empty ⊢
  simp only [List.isEmpty_iff, empty, List.all_eq_true, forall_isDigitByte_iff]
  by_cases none : characters = []
  · rw [if_pos none, if_pos none]
    rfl
  · rw [if_neg none, if_neg none]
    by_cases all : ∀ c ∈ characters, isDigit c = true
    · have converted := converts _ (mt empty.mp none) ((forall_isDigitByte_iff _).mpr all)
      rw [List.map_reverse, map_encode_of_isDigit all, ← List.map_reverse,
        ← value_eq_ofDigits] at converted
      rw [if_pos all, if_pos all, converted]
      rfl
    · rw [if_neg all, if_neg all]
      rfl

theorem readBytes_ne_converted {convert : List UInt8 → Option Nat} (converts : Converts convert)
    (text : String) (cause : Fault) : readBytes convert text ≠ .error (.converted cause) := by
  rw [readBytes_eq converts]
  cases parse text with
  | ok number => simp [Except.mapError]
  | error fault => simp [Except.mapError]

/-! ## The main result -/

theorem readInteger_eq_ok_iff {text : String} {number : Nat} :
    readInteger text = .ok number ↔ parse text = .ok number := by
  rw [readInteger]
  cases parse text with
  | ok value => simp
  | error fault => simp

theorem readInteger_of_parse {text : String} {fault : Fault} (refused : parse text = .error fault) :
    readInteger text = .error (.integer (.decimal fault)) := by
  rw [readInteger, refused]

/-- **A text is read as the number that its digits spell, and every number has one written form.**
Without the blank characters around it, a text that is read is one or more ASCII digits, and the
number has their place values.  Any other text is refused as one that is no integer, and this is
seen by a look at its characters: the conversion of the digits never refuses what it gets.  What is
written for a number is read as the number, with any blank characters around it, and begins with a
zero only for zero.  It is what is left of the text that was read, without the zeros in front. -/
theorem one_written_form {convert : List UInt8 → Option Nat} (converts : Converts convert) :
    (∀ text,
      let core := Text.trimmed text.toList
      Text.Trims text.toList core ∧
        (∀ number, readInteger text = .ok number ↔
          core ≠ [] ∧ (∀ c ∈ core, '0' ≤ c ∧ c ≤ '9') ∧
            number = Nat.ofDigits 10 (core.reverse.map fun c => c.toNat - '0'.toNat)) ∧
        (core = [] → readInteger text = .error (.integer (.decimal .empty))) ∧
        (core ≠ [] → (∃ c ∈ core, ¬('0' ≤ c ∧ c ≤ '9')) →
          readInteger text =
            .error (.integer (.decimal (.notDecimal (String.ofList (core.take 32)))))) ∧
        (∀ number, readInteger text = .ok number →
          ofNat number = String.ofList (unpadded core)) ∧
        readBytes convert text = (parse text).mapError .looked ∧
        ∀ cause, readBytes convert text ≠ .error (.converted cause)) ∧
    (∀ number front back, (∀ c ∈ front, Text.isBlank c = true) →
      (∀ c ∈ back, Text.isBlank c = true) →
        readInteger (String.ofList front ++ ofNat number ++ String.ofList back) = .ok number) ∧
    ∀ number, (ofNat number).toList.head? = some '0' → number = 0 := by
  refine ⟨fun text => ?_, fun number front back blankFront blankBack => ?_, fun number zero => ?_⟩
  · intro core
    have trims : Text.Trims text.toList core := Text.trims_trimmed _
    have parsed := parse_of_trims trims
    have isDigits : (∀ c ∈ core, isDigit c = true) ↔ ∀ c ∈ core, '0' ≤ c ∧ c ≤ '9' := by
      simp only [isDigit, Bool.and_eq_true, decide_eq_true_eq]
    refine ⟨trims, fun number => ?_, fun none => ?_, fun some other => ?_, fun number read => ?_,
      readBytes_eq converts text, readBytes_ne_converted converts text⟩
    · have place : Nat.ofDigits 10 (core.reverse.map fun c => c.toNat - '0'.toNat) = value core :=
        (value_eq_ofDigits core).symm
      rw [readInteger_eq_ok_iff, parse_eq_ok_iff, place]
      rfl
    · rw [if_pos none] at parsed
      exact readInteger_of_parse parsed
    · have foreign : ¬core.all isDigit = true := by
        rw [List.all_eq_true, isDigits]
        simpa using other
      rw [if_neg some, if_neg foreign] at parsed
      exact readInteger_of_parse parsed
    · obtain ⟨-, all, rfl⟩ := parse_eq_ok_iff.mp (readInteger_eq_ok_iff.mp read)
      rw [ofNat, digits_value (isDigits.mpr all)]
  · have core : Text.Trims (String.ofList front ++ ofNat number ++ String.ofList back).toList
        (digits number) := by
      refine ⟨⟨fun c first => ?_, fun c last => ?_⟩, front, back, ?_, blankFront, blankBack⟩
      · exact isBlank_of_isDigit (isDigit_of_mem_digits number c (List.mem_of_mem_head? first))
      · exact isBlank_of_isDigit (isDigit_of_mem_digits number c (List.mem_of_getLast? last))
      · simp [ofNat]
    rw [readInteger_eq_ok_iff, parse_of_trims core, if_neg (digits_ne_nil number),
      if_pos (List.all_eq_true.mpr (isDigit_of_mem_digits number)), value_digits]
  · rw [ofNat, String.toList_ofList] at zero
    exact eq_zero_of_head?_digits zero

/-- A conversion that takes nothing but digits, and an integer with blank characters around it and
zeros in front.  A sign is refused before it is converted, and so is an Arabic digit. -/
theorem one_written_form_of_padded :
    let convert : List UInt8 → Option Nat := fun bytes =>
      if bytes ≠ [] ∧ bytes.all isDigitByte = true then
        some (Nat.ofDigits 10 (bytes.reverse.map fun byte => byte.toNat - 0x30))
      else none
    Converts convert ∧ readInteger "\u2003 0042\n" = .ok 42 ∧ ofNat 42 = "42" ∧
      readBytes convert "\u2003 0042\n" = .ok 42 ∧
      readInteger "-5" = .error (.integer (.decimal (.notDecimal "-5"))) ∧
      readBytes convert "-5" = .error (.looked (.notDecimal "-5")) ∧
      readInteger "\u0664" = .error (.integer (.decimal (.notDecimal "\u0664"))) := by
  intro convert
  have converts : Converts convert :=
    fun bytes some all => if_pos ⟨some, List.all_eq_true.mpr all⟩
  obtain ⟨reads, -, -⟩ := one_written_form converts
  obtain ⟨-, spells, -, -, form, bytes, -⟩ := reads "\u2003 0042\n"
  obtain ⟨-, -, -, signed, -, looked, -⟩ := reads "-5"
  obtain ⟨-, -, -, foreign, -, -, -⟩ := reads "\u0664"
  have padded : Text.trimmed "\u2003 0042\n".toList = ['0', '0', '4', '2'] := by decide +kernel
  have minus : Text.trimmed "-5".toList = ['-', '5'] := by decide +kernel
  have arabic : Text.trimmed "\u0664".toList = ['\u0664'] := by decide +kernel
  rw [padded] at spells
  rw [minus] at signed
  rw [arabic] at foreign
  have read : readInteger "\u2003 0042\n" = .ok 42 :=
    (spells 42).mpr ⟨by simp, by simp, by decide⟩
  have parsed : parse "\u2003 0042\n" = .ok 42 := readInteger_eq_ok_iff.mp read
  have refused : parse "-5" = .error (.notDecimal "-5") := by decide +kernel
  exact ⟨converts, read, form 42 read, bytes.trans (by rw [parsed]; rfl),
    signed (by simp) ⟨'-', by simp, by decide⟩, looked.trans (by rw [refused]; rfl),
    foreign (by simp) ⟨'\u0664', by simp, by decide⟩⟩

end SealedCredentials.Arithmetic.Decimal
