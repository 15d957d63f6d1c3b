import SealedCredentials.Proofs.Json.Record
import SealedCredentials.Proofs.Json.WellFormed

/-!
# Values of members

A member of a record takes some of the values of JSON, each of them in some spelling
(`SpellsScalar`).  What stands behind a value plays no part in how it is read, whether it is taken
or refused (`readScalar_alone`), so a value can be judged by itself: it is taken exactly if it
spells something that the member holds (`readScalar_eq_ok_iff`).
-/

set_option autoImplicit false

namespace SealedCredentials.Json

open Arithmetic

/-- A value of a kind as it may be spelled, and what it stands for. -/
inductive SpellsScalar : Kind → List Char → Scalar → Prop where
  | text {spelled : List Char} {value : String} (spells : SpellsText spelled value.toList) :
      SpellsScalar .text ('"' :: (spelled ++ ['"'])) (.text value)
  | given {spelled : List Char} {value : String} (spells : SpellsText spelled value.toList) :
      SpellsScalar .optionalText ('"' :: (spelled ++ ['"'])) (.text value)
  | absent : SpellsScalar .optionalText ['n', 'u', 'l', 'l'] .absent
  | count {bits : Nat} {digits : List Char} (isWhole : IsWhole digits)
      (fits : Decimal.value digits < Nat.pow 2 bits)
      (kept : Decimal.value digits < Nat.pow 2 64) :
      SpellsScalar (.unsigned bits) digits (.count (Decimal.value digits))

variable {kind : Kind} {written : List Char} {scalar : Scalar}

theorem SpellsScalar.isLeaf (spells : SpellsScalar kind written scalar) : IsLeaf written := by
  cases spells with
  | text spells => exact .text spells.isText
  | given spells => exact .text spells.isText
  | absent => exact .nullWord
  | count isWhole _ kept => exact (SpellsLeaf.number (.natural isWhole kept)).isLeaf

theorem SpellsScalar.exists_text (spells : SpellsScalar .text written scalar) :
    ∃ value, scalar = .text value := by
  cases spells
  exact ⟨_, rfl⟩

theorem SpellsScalar.exists_count {bits : Nat}
    (spells : SpellsScalar (.unsigned bits) written scalar) :
    ∃ value, scalar = .count value ∧ value < Nat.pow 2 bits := by
  cases spells with
  | count _ fits _ => exact ⟨_, rfl, fits⟩

/-! ## What stands behind a value -/

/-- Only a string begins with a quote. -/
theorem WellFormed.of_quote {later : List Char} (wellFormed : WellFormed ('"' :: later)) :
    ∃ spelled, later = spelled ++ ['"'] ∧ IsText spelled := by
  rcases wellFormed.leaf_or_bracket with isLeaf | ⟨_, same⟩ | ⟨_, same⟩
  · generalize whole : '"' :: later = text at isLeaf
    cases isLeaf with
    | text isText =>
      cases whole
      exact ⟨_, rfl, isText⟩
    | number spells =>
      obtain ⟨c, _, rfl, first⟩ := spells.begins
      exact absurd (List.cons.inj whole).1.symm (first.ne (by decide))
    | nullWord | trueWord | falseWord => cases whole
  · cases same
  · cases same

/-- Of the values that begin with an n there is only one. -/
theorem WellFormed.of_null {later : List Char} (wellFormed : WellFormed ('n' :: later)) :
    later = ['u', 'l', 'l'] := by
  rcases wellFormed.leaf_or_bracket with isLeaf | ⟨_, same⟩ | ⟨_, same⟩
  · generalize whole : 'n' :: later = text at isLeaf
    cases isLeaf with
    | nullWord =>
      cases whole
      rfl
    | number spells =>
      obtain ⟨c, _, rfl, first⟩ := spells.begins
      exact absurd (List.cons.inj whole).1.symm (first.ne (by decide))
    | trueWord | falseWord | text => cases whole
  · cases same
  · cases same

/-- Only a number begins with a minus or a digit. -/
theorem WellFormed.of_number {c : Char} {later : List Char} (first : BeginsNumber c)
    (wellFormed : WellFormed (c :: later)) : ∃ literal, SpellsLiteral (c :: later) literal := by
  rcases wellFormed.leaf_or_bracket with isLeaf | ⟨_, same⟩ | ⟨_, same⟩
  · generalize whole : c :: later = text at isLeaf
    cases isLeaf with
    | number spells => exact ⟨_, spells⟩
    | nullWord | trueWord | falseWord | text =>
      exact absurd (List.cons.inj whole).1 (first.ne (by decide))
  · exact absurd (List.cons.inj same).1 (first.ne (by decide))
  · exact absurd (List.cons.inj same).1 (first.ne (by decide))

theorem readFound_text (rest : List Char) :
    readFound ('"' :: rest) = (readString rest).map fun read => .text read.1 := by
  have found : readFound ('"' :: rest) =
      ((readString rest).map fun read => (Value.text read.1, read.2)).map
        fun read => read.1.found := rfl
  rw [found]
  cases readString rest with
  | error fault => rfl
  | ok read => rfl

theorem readFound_number {c : Char} (first : BeginsNumber c) (rest : List Char) :
    readFound (c :: rest) = (readNumber (c :: rest)).map fun read => .number read.1 := by
  have token := skipSpace_cons first.token.1 rest
  rw [readFound, token]
  split
  · next same => exact absurd (List.cons.inj same).1 (first.ne (by decide))
  · next same => exact absurd (List.cons.inj same).1 (first.ne (by decide))
  · rw [readNested_eq, token, readToken_number first]
    cases readNumber (c :: rest) with
    | error fault => rfl
    | ok read => rfl

/-- What stands behind a value plays no part in what is said to be found. -/
theorem readFound_alone (wellFormed : WellFormed written) {rest : List Char}
    (ends : EndsNumber rest) : readFound (written ++ rest) = readFound written := by
  rcases wellFormed.leaf_or_bracket with isLeaf | ⟨_, rfl⟩ | ⟨_, rfl⟩
  · cases isLeaf with
    | nullWord | trueWord | falseWord => rfl
    | number spells =>
      have alone := readNumber_alone spells ends
      obtain ⟨c, later, rfl, first⟩ := spells.begins
      rw [List.cons_append] at alone ⊢
      rw [readFound_number first, readFound_number first, alone]
      cases readNumber (c :: later) with
      | error fault => rfl
      | ok read => rfl
    | @text spelled isText =>
      rw [List.cons_append, List.append_assoc, List.singleton_append, readFound_text,
        readFound_text, readString_alone isText]
      cases readString (spelled ++ ['"']) with
      | error fault => rfl
      | ok read => rfl
  · rfl
  · rfl

/-- A complaint is about the value alone. -/
theorem complain_alone {α : Type} (expected : String) (wellFormed : WellFormed written)
    {rest : List Char} (ends : EndsNumber rest) (f : α → α) :
    complain expected (written ++ rest) = (complain expected written).map f := by
  rw [complain, complain, readFound_alone wellFormed ends]
  cases readFound written with
  | error fault => rfl
  | ok found => rfl

theorem complain_ne_ok {α : Type} {expected : String} {text : List Char} {value : α} :
    complain expected text ≠ .ok value := by
  intro impossible
  obtain ⟨found, -, thrown⟩ := bind_eq_ok_iff.mp impossible
  cases thrown

/-! ## Reading a value -/

/-- A value of the kind may begin with the character. -/
def Kind.Allows : Kind → Char → Prop
  | .text, c => c = '"'
  | .optionalText, c => c = '"' ∨ c = 'n'
  | .unsigned _, c => BeginsNumber c

theorem readScalar_append {gap : List Char} (isGap : IsGap gap) (kind : Kind)
    (text : List Char) : readScalar kind (gap ++ text) = readScalar kind text := by
  rw [readScalar, readScalar, skipSpace_append isGap]

theorem readScalar_text {kind : Kind} (allowed : kind.Allows '"') (rest : List Char) :
    readScalar kind ('"' :: rest) =
      (readString rest).map fun (value, rest) => (.text value, rest) := by
  cases kind with
  | text => rfl
  | optionalText => rfl
  | unsigned bits =>
    have first : BeginsNumber '"' := allowed
    exact absurd rfl (first.ne (by decide))

theorem readScalar_number {c : Char} (first : BeginsNumber c) (bits : Nat) (rest : List Char) :
    readScalar (.unsigned bits) (c :: rest) = do
      let (number, rest) ← readNumber (c :: rest)
      let value ← number.fit bits
      return (value, rest) := by
  have begins : (c = '-' || Decimal.isDigit c) = true := by simpa [BeginsNumber] using first
  rw [readScalar, skipSpace_cons first.token.1]
  exact if_pos begins

/-- Whatever the kind does not allow is complained about. -/
theorem readScalar_refused {kind : Kind} {c : Char} (token : isSpace c = false)
    (other : ¬kind.Allows c) (rest : List Char) :
    readScalar kind (c :: rest) = complain kind.expected (c :: rest) := by
  rw [readScalar, skipSpace_cons token]
  cases kind with
  | text => exact if_neg other
  | optionalText =>
    obtain ⟨quote, null⟩ := not_or.mp other
    exact (if_neg quote).trans (if_neg null)
  | unsigned bits =>
    have other : ¬(c = '-' || Decimal.isDigit c) = true := by
      simpa [Kind.Allows, BeginsNumber] using other
    exact if_neg other

/-- What a value of a kind is, if it begins like one: a string, the word for nothing or a number. -/
theorem WellFormed.of_allows {kind : Kind} {c : Char} {later : List Char}
    (wellFormed : WellFormed (c :: later)) (allowed : kind.Allows c) :
    (c = '"' ∧ ∃ spelled, later = spelled ++ ['"'] ∧ IsText spelled) ∨
      (kind = .optionalText ∧ c = 'n' ∧ later = ['u', 'l', 'l']) ∨
      ∃ bits literal, kind = .unsigned bits ∧ BeginsNumber c ∧
        SpellsLiteral (c :: later) literal := by
  cases kind with
  | text =>
    obtain rfl : c = '"' := allowed
    exact .inl ⟨rfl, wellFormed.of_quote⟩
  | optionalText =>
    obtain rfl | rfl : c = '"' ∨ c = 'n' := allowed
    · exact .inl ⟨rfl, wellFormed.of_quote⟩
    · exact .inr (.inl ⟨rfl, rfl, wellFormed.of_null⟩)
  | unsigned bits =>
    obtain ⟨literal, spells⟩ := wellFormed.of_number allowed
    exact .inr (.inr ⟨bits, literal, rfl, allowed, spells⟩)

/-- **What stands behind a value plays no part in how it is read.** -/
theorem readScalar_alone (kind : Kind) {gap written rest : List Char} (isGap : IsGap gap)
    (wellFormed : WellFormed written) (ends : EndsNumber rest) :
    readScalar kind (gap ++ (written ++ rest)) =
      (readScalar kind written).map fun read => (read.1, rest) := by
  obtain ⟨c, later, rfl, token, -⟩ := wellFormed.begins
  rw [readScalar_append isGap]
  by_cases allowed : kind.Allows c
  · rcases wellFormed.of_allows allowed with
      ⟨rfl, spelled, rfl, isText⟩ | ⟨rfl, rfl, rfl⟩ | ⟨bits, literal, rfl, first, spells⟩
    · rw [List.cons_append, List.append_assoc, List.singleton_append, readScalar_text allowed,
        readScalar_text allowed, readString_alone isText]
      cases readString (spelled ++ ['"']) with
      | error fault => rfl
      | ok read => rfl
    · rfl
    · have alone := readNumber_alone spells ends
      rw [List.cons_append] at alone ⊢
      rw [readScalar_number first, readScalar_number first, alone]
      cases readNumber (c :: later) with
      | error fault => rfl
      | ok read =>
        simp only [bind, Except.bind, Except.map]
        cases read.1.fit bits with
        | error fault => rfl
        | ok value => rfl
  · rw [List.cons_append, readScalar_refused token allowed, readScalar_refused token allowed,
      ← List.cons_append, complain_alone _ wellFormed ends]

/-- What is spelled is read. -/
theorem readScalar_of_spells (spells : SpellsScalar kind written scalar) :
    readScalar kind written = .ok (scalar, []) := by
  have string {spelled : List Char} {value : String} (text : SpellsText spelled value.toList)
      (allowed : kind.Allows '"') :
      readScalar kind ('"' :: (spelled ++ ['"'])) = .ok (.text value, []) := by
    rw [readScalar_text allowed, readString_eq_ok_iff.mpr ⟨spelled, rfl, text⟩]
    rfl
  cases spells with
  | text text => exact string text rfl
  | given text => exact string text (.inl rfl)
  | absent => rfl
  | @count bits digits isWhole fits kept =>
    have number := SpellsNumber.natural isWhole kept
    have reads := readNumber_complete number endsNumber_nil
    rw [List.append_nil] at reads
    obtain ⟨c, later, same, first⟩ := number.begins
    rw [same, readScalar_number first, ← same, reads]
    have fit := fit_eq_ok_iff.mpr ⟨_, rfl, fits, rfl⟩
    exact bind_eq_ok_iff.mpr ⟨_, rfl, bind_eq_ok_iff.mpr ⟨_, fit, rfl⟩⟩

theorem isSpace_of_skipSpace {text later : List Char} {c : Char}
    (head : skipSpace text = c :: later) : isSpace c = false := by
  have first := List.head?_dropWhile_not isSpace text
  rw [skipSpace] at head
  rw [head] at first
  exact first

theorem text_of_readScalar (kind : Kind) {later rest : List Char} (allowed : kind.Allows '"')
    (reads : readScalar kind ('"' :: later) = .ok (scalar, rest)) :
    ∃ spelled value, '"' :: later = '"' :: (spelled ++ ['"']) ++ rest ∧
      SpellsText spelled value.toList ∧ scalar = .text value := by
  rw [readScalar_text allowed] at reads
  obtain ⟨⟨value, after⟩, inner, same⟩ := map_eq_ok_iff.mp reads
  cases same
  obtain ⟨spelled, rfl, spells⟩ := readString_eq_ok_iff.mp inner
  exact ⟨spelled, value, by simp, spells, rfl⟩

/-- **What is read is spelled.** -/
theorem readScalar_sound (kind : Kind) : Sound (readScalar kind) (SpellsScalar kind) := by
  intro text scalar rest reads
  obtain ⟨gap, isGap, whole⟩ := exists_gap text
  rw [whole, readScalar_append isGap] at reads
  suffices token : ∃ spelled, skipSpace text = spelled ++ rest ∧ SpellsScalar kind spelled scalar by
    obtain ⟨spelled, same, spells⟩ := token
    exact ⟨gap, spelled, isGap, same ▸ whole, spells⟩
  cases head : skipSpace text with
  | nil =>
    rw [head] at reads
    cases reads
  | cons c later =>
    rw [head] at reads
    by_cases allowed : kind.Allows c
    · cases kind with
      | text =>
        obtain rfl : c = '"' := allowed
        obtain ⟨spelled, value, same, spells, rfl⟩ := text_of_readScalar .text rfl reads
        exact ⟨_, same, .text spells⟩
      | optionalText =>
        obtain rfl | rfl : c = '"' ∨ c = 'n' := allowed
        · obtain ⟨spelled, value, same, spells, rfl⟩ :=
            text_of_readScalar .optionalText (.inl rfl) reads
          exact ⟨_, same, .given spells⟩
        · obtain ⟨after, expected, given⟩ := map_eq_ok_iff.mp reads
          cases given
          obtain rfl := expectWord_eq_ok_iff.mp expected
          exact ⟨['n', 'u', 'l', 'l'], rfl, .absent⟩
      | unsigned bits =>
        rw [readScalar_number allowed] at reads
        obtain ⟨⟨number, after⟩, lexed, given⟩ := bind_eq_ok_iff.mp reads
        obtain ⟨value, fits, same⟩ := bind_eq_ok_iff.mp given
        cases same
        obtain ⟨count, rfl, small, rfl⟩ := fit_eq_ok_iff.mp fits
        obtain ⟨spelled, same, natural⟩ := readNumber_sound lexed
        cases natural with
        | natural isWhole kept => exact ⟨spelled, same, .count isWhole small kept⟩
    · rw [readScalar_refused (isSpace_of_skipSpace head) allowed] at reads
      exact absurd reads complain_ne_ok

theorem rest_eq_nil_of_readScalar (wellFormed : WellFormed written) {rest : List Char}
    (reads : readScalar kind written = .ok (scalar, rest)) : rest = [] := by
  have alone := readScalar_alone kind isGap_nil wellFormed endsNumber_nil
  rw [List.nil_append, List.append_nil, reads] at alone
  cases alone
  rfl

/-- **A value by itself is taken exactly if it spells something that the member holds.** -/
theorem readScalar_eq_ok_iff (wellFormed : WellFormed written) {rest : List Char} :
    readScalar kind written = .ok (scalar, rest) ↔
      SpellsScalar kind written scalar ∧ rest = [] := by
  constructor
  · intro reads
    obtain rfl := rest_eq_nil_of_readScalar wellFormed reads
    obtain ⟨gap, spelled, isGap, whole, spells⟩ := readScalar_sound kind _ _ _ reads
    rw [List.append_nil] at whole
    -- no value begins with a blank
    cases gap with
    | nil => exact ⟨whole ▸ spells, rfl⟩
    | cons blank others =>
      obtain ⟨c, later, same, token, -⟩ := wellFormed.begins
      obtain ⟨rfl, -⟩ := List.cons.inj (same.symm.trans whole)
      exact absurd (isGap c List.mem_cons_self) (by simp [token])
  · rintro ⟨spells, rfl⟩
    exact readScalar_of_spells spells

theorem SpellsScalar.unique {other : Scalar} (spells : SpellsScalar kind written scalar)
    (also : SpellsScalar kind written other) : scalar = other := by
  have reads := (readScalar_of_spells spells).symm.trans (readScalar_of_spells also)
  cases reads
  rfl

end SealedCredentials.Json
