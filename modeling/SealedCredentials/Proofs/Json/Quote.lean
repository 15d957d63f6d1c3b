import SealedCredentials.Json.Quote

/-!
# How strings are spelled

A string is spelled piece by piece, each piece standing for one character (`SpellsChar`): the
character itself, unless it is a quote, a backslash or a control; an escape of one letter; a unit of
four hexadecimal digits that is no half of a pair; or the two halves of a pair.  Reading takes
exactly the strings that are spelled like this, up to the closing quote (`stringFrom_eq_ok_iff`),
and writing spells every string (`spellsText_write`).
-/

set_option autoImplicit false

namespace SealedCredentials.Json

/-! ## Spellings -/

/-- Four hexadecimal digits, and the number that they spell. -/
inductive SpellsUnit : List Char → Nat → Prop where
  | digits {a b c d : Char} {i j k l : Nat} (first : hexValue? a = some i)
      (second : hexValue? b = some j) (third : hexValue? c = some k)
      (fourth : hexValue? d = some l) :
      SpellsUnit [a, b, c, d] (((i * 16 + j) * 16 + k) * 16 + l)

/-- A piece of a string, and the character that it stands for. -/
inductive SpellsChar : List Char → Char → Prop where
  | plain {c : Char} (quote : c ≠ '"') (backslash : c ≠ '\\') (printable : 0x20 ≤ c.toNat) :
      SpellsChar [c] c
  | letter {letter c : Char} (stands : unescape? letter = some c) : SpellsChar ['\\', letter] c
  | unit {digits : List Char} {value : Nat} (spelled : SpellsUnit digits value)
      (whole : ¬(0xD800 ≤ value ∧ value ≤ 0xDFFF)) :
      SpellsChar ('\\' :: 'u' :: digits) (Char.ofNat value)
  | pair {digits more : List Char} {high low : Nat} (first : SpellsUnit digits high)
      (second : SpellsUnit more low) (isHigh : 0xD800 ≤ high ∧ high ≤ 0xDBFF)
      (isLow : 0xDC00 ≤ low ∧ low ≤ 0xDFFF) :
      SpellsChar ('\\' :: 'u' :: digits ++ '\\' :: 'u' :: more)
        (Char.ofNat (0x10000 + (high - 0xD800) * 0x400 + (low - 0xDC00)))

/-- What stands between the quotes of a string, and its characters. -/
inductive SpellsText : List Char → List Char → Prop where
  | nil : SpellsText [] []
  | cons {piece rest : List Char} {c : Char} {text : List Char} (head : SpellsChar piece c)
      (tail : SpellsText rest text) : SpellsText (piece ++ rest) (c :: text)

/-! ## Reading -/

theorem prepend_eq_ok_iff {c : Char} {result : Except Fault (List Char × List Char)}
    {text rest : List Char} :
    prepend c result = .ok (text, rest) ↔
      ∃ later, text = c :: later ∧ result = .ok (later, rest) := by
  cases result with
  | error fault => simp [prepend]
  | ok read =>
    obtain ⟨later, after⟩ := read
    simp only [prepend, Except.ok.injEq, Prod.mk.injEq]
    constructor
    · rintro ⟨rfl, rfl⟩
      exact ⟨later, rfl, rfl, rfl⟩
    · rintro ⟨same, rfl, rfl, rfl⟩
      exact ⟨rfl, rfl⟩

/-- What is read after a numeric escape. -/
def afterUnit (strict : Bool) (high : Option Nat) (value : Nat) (rest : List Char) :
    Except Fault (List Char × List Char) :=
  match finish strict high value with
  | .character meant => prepend meant (stringFrom strict .plain rest)
  | .firstHalf first => stringFrom strict (.paired first) rest
  | .refused => .error .malformed

theorem stringFrom_unit {digits : List Char} {value : Nat} (spelled : SpellsUnit digits value)
    (strict : Bool) (high : Option Nat) (rest : List Char) :
    stringFrom strict (.digits high 3 0) (digits ++ rest) = afterUnit strict high value rest := by
  obtain ⟨first, second, third, fourth⟩ := spelled
  simp only [List.cons_append, List.nil_append, stringFrom, first, second, third, fourth,
    Nat.zero_mul, Nat.zero_add]
  rfl

/-- The next digit of a unit. -/
theorem digit_of_stringFrom {strict : Bool} {high : Option Nat} {left value : Nat}
    {text : List Char} {read : List Char × List Char}
    (reads : stringFrom strict (.digits high left value) text = .ok read) :
    ∃ c digit rest, text = c :: rest ∧ hexValue? c = some digit ∧ ∀ fewer, left = fewer + 1 →
      stringFrom strict (.digits high fewer (value * 16 + digit)) rest = .ok read := by
  cases text with
  | nil => cases reads
  | cons c rest =>
    rw [stringFrom.eq_def] at reads
    cases worth : hexValue? c with
    | none =>
      simp only [worth] at reads
      cases reads
    | some digit =>
      refine ⟨c, digit, rest, rfl, worth, ?_⟩
      rintro fewer rfl
      simpa only [worth] using reads

/-- Only a unit can be read as one. -/
theorem unit_of_stringFrom {strict : Bool} {high : Option Nat} {text : List Char}
    {read : List Char × List Char}
    (reads : stringFrom strict (.digits high 3 0) text = .ok read) :
    ∃ digits value rest, text = digits ++ rest ∧ SpellsUnit digits value := by
  obtain ⟨a, i, rest, rfl, first, reads⟩ := digit_of_stringFrom reads
  obtain ⟨b, j, rest, rfl, second, reads⟩ := digit_of_stringFrom (reads 2 rfl)
  obtain ⟨c, k, rest, rfl, third, reads⟩ := digit_of_stringFrom (reads 1 rfl)
  obtain ⟨d, l, rest, rfl, fourth, -⟩ := digit_of_stringFrom (reads 0 rfl)
  exact ⟨[a, b, c, d], _, rest, rfl, .digits first second third fourth⟩

/-! ### One piece -/

theorem afterUnit_of_whole {value : Nat} (whole : ¬(0xD800 ≤ value ∧ value ≤ 0xDFFF))
    (rest : List Char) :
    afterUnit true none value rest =
      prepend (Char.ofNat value) (stringFrom true .plain rest) := by
  have finished : finish true none value = .character (Char.ofNat value) := by
    simp only [finish, Bool.not_true, Bool.false_eq_true, if_false, Bool.and_eq_true,
      decide_eq_true_eq]
    rw [if_neg (by omega), if_neg (by omega)]
  rw [afterUnit, finished]

theorem afterUnit_of_high {value : Nat} (isHigh : 0xD800 ≤ value ∧ value ≤ 0xDBFF)
    (rest : List Char) :
    afterUnit true none value rest = stringFrom true (.paired value) rest := by
  have finished : finish true none value = .firstHalf value := by
    simp only [finish, Bool.not_true, Bool.false_eq_true, if_false, Bool.and_eq_true,
      decide_eq_true_eq]
    rw [if_pos isHigh]
  rw [afterUnit, finished]

theorem afterUnit_of_low {high value : Nat} (isLow : 0xDC00 ≤ value ∧ value ≤ 0xDFFF)
    (rest : List Char) :
    afterUnit true (some high) value rest =
      prepend (Char.ofNat (0x10000 + (high - 0xD800) * 0x400 + (value - 0xDC00)))
        (stringFrom true .plain rest) := by
  have finished : finish true (some high) value =
      .character (Char.ofNat (0x10000 + (high - 0xD800) * 0x400 + (value - 0xDC00))) := by
    simp only [finish, Bool.not_true, Bool.false_eq_true, if_false, Bool.and_eq_true,
      decide_eq_true_eq]
    rw [if_pos isLow]
  rw [afterUnit, finished]

/-- A second half that stands alone, or a first half without its second, is refused. -/
theorem afterUnit_error {high : Option Nat} {value : Nat} {rest : List Char}
    (alone : high.isSome = true ∧ ¬(0xDC00 ≤ value ∧ value ≤ 0xDFFF) ∨
      high = none ∧ 0xDC00 ≤ value ∧ value ≤ 0xDFFF) :
    afterUnit true high value rest = .error .malformed := by
  have finished : finish true high value = .refused := by
    rcases alone with ⟨there, outside⟩ | ⟨rfl, isLow⟩
    · obtain ⟨first, rfl⟩ := Option.isSome_iff_exists.mp there
      simp only [finish, Bool.not_true, Bool.false_eq_true, if_false, Bool.and_eq_true,
        decide_eq_true_eq]
      rw [if_neg outside]
    · simp only [finish, Bool.not_true, Bool.false_eq_true, if_false, Bool.and_eq_true,
        decide_eq_true_eq]
      rw [if_neg (by omega), if_pos isLow]
  rw [afterUnit, finished]

theorem stringFrom_plain {c : Char} (quote : c ≠ '"') (backslash : c ≠ '\\')
    (printable : 0x20 ≤ c.toNat) (strict : Bool) (rest : List Char) :
    stringFrom strict .plain (c :: rest) = prepend c (stringFrom strict .plain rest) := by
  rw [stringFrom.eq_def]
  simp only [if_neg quote, if_neg backslash, if_neg (Nat.not_lt.mpr printable)]

theorem stringFrom_letter {letter c : Char} (stands : unescape? letter = some c) (strict : Bool)
    (rest : List Char) :
    stringFrom strict .plain ('\\' :: letter :: rest) =
      prepend c (stringFrom strict .plain rest) := by
  have escaped : stringFrom strict .plain ('\\' :: letter :: rest) =
      stringFrom strict (.escape none) (letter :: rest) := by
    rw [stringFrom.eq_def]
    rfl
  have other : letter ≠ 'u' := by
    rintro rfl
    cases stands
  rw [escaped, stringFrom.eq_def]
  simp only [if_neg other, Option.isSome_none, Bool.false_eq_true, if_false, stands]

/-- A unit is read alone, or as the second half of a pair. -/
theorem stringFrom_escaped {digits : List Char} {value : Nat} (spelled : SpellsUnit digits value)
    (strict : Bool) (rest : List Char) :
    stringFrom strict .plain ('\\' :: 'u' :: (digits ++ rest)) =
        afterUnit strict none value rest ∧
      ∀ high, stringFrom strict (.paired high) ('\\' :: 'u' :: (digits ++ rest)) =
        afterUnit strict (some high) value rest := by
  have numeric (high : Option Nat) :
      stringFrom strict (.escape high) ('u' :: (digits ++ rest)) =
        afterUnit strict high value rest := by
    rw [stringFrom.eq_def]
    exact stringFrom_unit spelled strict high rest
  refine ⟨?_, fun high => ?_⟩
  · rw [stringFrom.eq_def]
    exact numeric none
  · rw [stringFrom.eq_def]
    exact numeric (some high)

/-- **A piece is read as the character that it stands for.** -/
theorem stringFrom_char {piece : List Char} {c : Char} (spelled : SpellsChar piece c)
    (rest : List Char) :
    stringFrom true .plain (piece ++ rest) = prepend c (stringFrom true .plain rest) := by
  cases spelled with
  | plain quote backslash printable => exact stringFrom_plain quote backslash printable true rest
  | letter stands => exact stringFrom_letter stands true rest
  | unit spelled whole =>
    rw [List.cons_append, List.cons_append, (stringFrom_escaped spelled true rest).1,
      afterUnit_of_whole whole]
  | pair first second isHigh isLow =>
    simp only [List.cons_append, List.append_assoc]
    rw [(stringFrom_escaped first true _).1, afterUnit_of_high isHigh,
      (stringFrom_escaped second true rest).2, afterUnit_of_low isLow]

/-- After the backslash of an escape stands a unit, or else, unless a second half is awaited, a
letter. -/
theorem cases_of_escape {strict : Bool} {high : Option Nat} {text : List Char}
    {read : List Char × List Char} (reads : stringFrom strict (.escape high) text = .ok read) :
    (∃ digits value later, text = 'u' :: digits ++ later ∧ SpellsUnit digits value ∧
        afterUnit strict high value later = .ok read) ∨
      high = none ∧ ∃ letter c later, text = letter :: later ∧ unescape? letter = some c := by
  cases text with
  | nil => cases reads
  | cons letter rest =>
    rw [stringFrom.eq_def] at reads
    by_cases numeric : letter = 'u'
    · obtain rfl := numeric
      simp only [if_true] at reads
      obtain ⟨digits, value, later, rfl, spelled⟩ := unit_of_stringFrom reads
      rw [stringFrom_unit spelled] at reads
      exact .inl ⟨digits, value, later, rfl, spelled, reads⟩
    · simp only [if_neg numeric] at reads
      cases high with
      | some first => cases reads
      | none =>
        cases stands : unescape? letter with
        | none =>
          simp only [stands] at reads
          cases reads
        | some c => exact .inr ⟨rfl, letter, c, rest, rfl, stands⟩

/-- After the first half of a pair stands its second half. -/
theorem second_of_paired {high : Nat} {text : List Char} {read : List Char × List Char}
    (reads : stringFrom true (.paired high) text = .ok read) :
    ∃ digits low later, text = '\\' :: 'u' :: digits ++ later ∧ SpellsUnit digits low ∧
      0xDC00 ≤ low ∧ low ≤ 0xDFFF := by
  cases text with
  | nil => cases reads
  | cons backslash rest =>
    rw [stringFrom.eq_def] at reads
    by_cases same : backslash = '\\'
    · obtain rfl := same
      simp only [if_true] at reads
      rcases cases_of_escape reads with ⟨digits, low, later, rfl, spelled, follows⟩ | ⟨absent, -⟩
      · by_cases isLow : 0xDC00 ≤ low ∧ low ≤ 0xDFFF
        · exact ⟨digits, low, later, rfl, spelled, isLow⟩
        · rw [afterUnit_error (.inl ⟨rfl, isLow⟩)] at follows
          cases follows
      · cases absent
    · simp only [if_neg same] at reads
      cases reads

/-- After the backslash of an escape stands the rest of a piece. -/
theorem piece_of_escape {text : List Char} {read : List Char × List Char}
    (reads : stringFrom true (.escape none) text = .ok read) :
    ∃ piece c later, '\\' :: text = piece ++ later ∧ SpellsChar piece c := by
  rcases cases_of_escape reads with
    ⟨digits, value, later, rfl, spelled, follows⟩ | ⟨-, letter, c, later, rfl, stands⟩
  · by_cases isLow : 0xDC00 ≤ value ∧ value ≤ 0xDFFF
    · rw [afterUnit_error (.inr ⟨rfl, isLow⟩)] at follows
      cases follows
    · by_cases isHigh : 0xD800 ≤ value ∧ value ≤ 0xDBFF
      · rw [afterUnit_of_high isHigh] at follows
        obtain ⟨more, low, after, rfl, second, isLow⟩ := second_of_paired follows
        exact ⟨_, _, after, by simp, .pair spelled second isHigh isLow⟩
      · exact ⟨_, _, later, rfl, .unit spelled (by omega)⟩
  · exact ⟨_, c, later, rfl, .letter stands⟩

/-- What is read inside a string is its closing quote, a character that stands for itself, or an
escape. -/
theorem cases_of_stringFrom {strict : Bool} {text : List Char} {read : List Char × List Char}
    (reads : stringFrom strict .plain text = .ok read) :
    (∃ rest, text = '"' :: rest ∧ read = ([], rest)) ∨
      (∃ c later, text = c :: later ∧ c ≠ '"' ∧ c ≠ '\\' ∧ 0x20 ≤ c.toNat) ∨
      ∃ later, text = '\\' :: later ∧ stringFrom strict (.escape none) later = .ok read := by
  cases text with
  | nil => cases reads
  | cons c rest =>
    rw [stringFrom.eq_def] at reads
    by_cases quote : c = '"'
    · obtain rfl := quote
      cases reads
      exact .inl ⟨rest, rfl, rfl⟩
    · by_cases backslash : c = '\\'
      · obtain rfl := backslash
        exact .inr (.inr ⟨rest, rfl, reads⟩)
      · simp only [if_neg quote, if_neg backslash] at reads
        by_cases control : c.toNat < 0x20
        · rw [if_pos control] at reads
          cases reads
        · exact .inr (.inl ⟨c, rest, rfl, quote, backslash, Nat.le_of_not_lt control⟩)

/-- What is read inside a string is its closing quote or a piece. -/
theorem piece_of_stringFrom {text : List Char} {read : List Char × List Char}
    (reads : stringFrom true .plain text = .ok read) :
    (∃ rest, text = '"' :: rest ∧ read = ([], rest)) ∨
      ∃ piece c later, text = piece ++ later ∧ SpellsChar piece c := by
  rcases cases_of_stringFrom reads with
    closing | ⟨c, later, rfl, quote, backslash, printable⟩ | ⟨later, rfl, escaped⟩
  · exact .inl closing
  · exact .inr ⟨[c], c, later, rfl, .plain quote backslash printable⟩
  · exact .inr (piece_of_escape escaped)

/-! ### Whole strings -/

theorem SpellsChar.ne_nil {piece : List Char} {c : Char} (spelled : SpellsChar piece c) :
    piece ≠ [] := by
  cases spelled <;> simp

/-- A piece is passed as a character. -/
def Passes (strict : Bool) (piece : List Char) (c : Char) : Prop :=
  piece ≠ [] ∧ ∀ rest,
    stringFrom strict .plain (piece ++ rest) = prepend c (stringFrom strict .plain rest)

/-- What is read up to the closing quote consists of pieces, if there is a piece wherever there is
no quote. -/
theorem exists_pieces {strict : Bool} (piece : List Char → Char → Prop)
    (pieces : List Char → List Char → Prop)
    (first : ∀ text read, stringFrom strict .plain text = .ok read →
      (∃ rest, text = '"' :: rest ∧ read = ([], rest)) ∨
        ∃ head c later, text = head ++ later ∧ piece head c)
    (passes : ∀ head c, piece head c → Passes strict head c)
    (nil : pieces [] [])
    (cons : ∀ head c spelled text, piece head c → pieces spelled text →
      pieces (head ++ spelled) (c :: text))
    {text characters rest : List Char}
    (reads : stringFrom strict .plain text = .ok (characters, rest)) :
    ∃ spelled, text = spelled ++ '"' :: rest ∧ pieces spelled characters := by
  -- every piece is shorter than the text that it stands at the head of
  induction size : text.length using Nat.strongRecOn generalizing text characters with
  | ind _ shorter =>
    rcases first _ _ reads with ⟨after, rfl, same⟩ | ⟨head, c, later, rfl, isPiece⟩
    · cases same
      exact ⟨[], rfl, nil⟩
    · obtain ⟨nonempty, passed⟩ := passes head c isPiece
      rw [passed, prepend_eq_ok_iff] at reads
      obtain ⟨others, rfl, reads⟩ := reads
      have decreases : later.length < (head ++ later).length := by
        rw [List.length_append]
        exact Nat.lt_add_of_pos_left (List.length_pos_iff.mpr nonempty)
      obtain ⟨spelled, rfl, tail⟩ := shorter _ (size ▸ decreases) reads rfl
      exact ⟨head ++ spelled, (List.append_assoc ..).symm, cons head c spelled others isPiece tail⟩

/-- **Reading takes the strings that are spelled, up to the closing quote.** -/
theorem stringFrom_eq_ok_iff {text characters rest : List Char} :
    stringFrom true .plain text = .ok (characters, rest) ↔
      ∃ spelled, text = spelled ++ '"' :: rest ∧ SpellsText spelled characters := by
  constructor
  · refine exists_pieces SpellsChar SpellsText (fun _ _ => piece_of_stringFrom) ?_ .nil ?_
    · intro head c spelled
      exact ⟨spelled.ne_nil, stringFrom_char spelled⟩
    · intro head c spelled text isPiece tail
      exact .cons isPiece tail
  · rintro ⟨spelled, rfl, whole⟩
    induction whole with
    | nil => rfl
    | cons head _ ih => rw [List.append_assoc, stringFrom_char head, ih, prepend]

theorem readString_eq_ok_iff {text rest : List Char} {value : String} :
    readString text = .ok (value, rest) ↔
      ∃ spelled, text = spelled ++ '"' :: rest ∧ SpellsText spelled value.toList := by
  rw [← stringFrom_eq_ok_iff, readString]
  cases stringFrom true .plain text with
  | error fault => simp
  | ok read =>
    obtain ⟨characters, after⟩ := read
    simp only [Except.ok.injEq, Prod.mk.injEq]
    refine and_congr_left fun _ => ?_
    rw [← String.toList_inj, String.toList_ofList]

/-! ## Writing -/

/-- Every character is written as a piece that stands for it. -/
theorem spellsChar_write (c : Char) : SpellsChar (writeChar c) c := by
  by_cases named : c ∈ ['"', '\\', '\x08', '\x0c', '\n', '\r', '\t']
  · have letters : ∀ c ∈ ['"', '\\', '\x08', '\x0c', '\n', '\r', '\t'],
        ∃ letter, writeChar c = ['\\', letter] ∧ unescape? letter = some c := by
      simp only [List.forall_mem_cons]
      exact ⟨⟨'"', rfl, rfl⟩, ⟨'\\', rfl, rfl⟩, ⟨'b', rfl, rfl⟩, ⟨'f', rfl, rfl⟩, ⟨'n', rfl, rfl⟩,
        ⟨'r', rfl, rfl⟩, ⟨'t', rfl, rfl⟩, List.forall_mem_nil _⟩
    obtain ⟨letter, written, stands⟩ := letters c named
    exact written ▸ .letter stands
  · simp only [List.mem_cons, List.not_mem_nil, or_false, not_or] at named
    obtain ⟨quote, backslash, back, feed, line, carriage, tab⟩ := named
    rw [writeChar, if_neg quote, if_neg backslash, if_neg back, if_neg feed, if_neg line,
      if_neg carriage, if_neg tab]
    by_cases control : c.toNat < 0x20
    · have worth : ∀ n < 0x20, hexValue? (if n < 0x10 then '0' else '1') = some (n / 16) ∧
          hexValue? (Char.ofNat (if n % 0x10 < 10 then 0x30 + n % 0x10 else 0x57 + n % 0x10)) =
            some (n % 16) := by
        decide
      obtain ⟨third, fourth⟩ := worth c.toNat control
      have zero : hexValue? '0' = some 0 := rfl
      have spelled := SpellsUnit.digits zero zero third fourth
      have value : ((0 * 16 + 0) * 16 + c.toNat / 16) * 16 + c.toNat % 16 = c.toNat := by omega
      rw [value] at spelled
      have piece := SpellsChar.unit spelled (by omega)
      rw [Char.ofNat_toNat] at piece
      rw [if_pos control]
      exact piece
    · rw [if_neg control]
      exact .plain quote backslash (Nat.le_of_not_lt control)

/-- **Writing spells every string.** -/
theorem spellsText_write (text : List Char) : SpellsText (text.flatMap writeChar) text := by
  induction text with
  | nil => exact .nil
  | cons c rest ih =>
    rw [List.flatMap_cons]
    exact .cons (spellsChar_write c) ih

end SealedCredentials.Json
