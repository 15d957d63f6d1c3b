import SealedCredentials.Text.Utf8

/-!
# Reading undoes writing, and writing undoes reading

`Form` lists the byte sequences that spell code points, by their length.  A character is read
from exactly these (`next_of_form`, `form_of_next`), and what is written for a character is the
one form that spells it (`form_encodeChar`, `encodeChar_of_form`).  So a text is read back from
its bytes, and bytes from which a text is read are the bytes of that text: overlong forms,
surrogates and cut-off sequences are not read at all.

The bytes of a text are those that the standard library keeps it in, so a byte list is read exactly
if it is valid UTF-8 as the standard library has it (`toString?_eq_ok_iff`, `isValidUTF8_iff`).
-/

set_option autoImplicit false

namespace SealedCredentials.Text.Utf8

/-! ## The forms of a character -/

theorem isTail_iff (byte : UInt8) :
    isTail byte = true ↔ 0x80 ≤ byte.toNat ∧ byte.toNat ≤ 0xBF := by
  simp only [isTail, Bool.and_eq_true, decide_eq_true_eq, UInt8.le_iff_toNat_le]
  rfl

/-- The second byte of a longer form continues a character, and four lead bytes narrow it. -/
theorem isSecond_iff (lead byte : UInt8) :
    isSecond lead byte = true ↔
      (0x80 ≤ byte.toNat ∧ byte.toNat ≤ 0xBF) ∧ (lead.toNat = 0xE0 → 0xA0 ≤ byte.toNat) ∧
        (lead.toNat = 0xF0 → 0x90 ≤ byte.toNat) ∧ (lead.toNat = 0xED → byte.toNat < 0xA0) ∧
        (lead.toNat = 0xF4 → byte.toNat < 0x90) := by
  have same (value : UInt8) : lead = value ↔ lead.toNat = value.toNat := UInt8.toNat_inj.symm
  simp only [isSecond, Bool.and_eq_true, decide_eq_true_eq, UInt8.le_iff_toNat_le,
    apply_ite UInt8.toNat, same, UInt8.reduceToNat]
  split <;> split <;> (try split) <;> (try split) <;> omega

/-- The byte sequences of one to four bytes that spell a code point. -/
inductive Form : List UInt8 → Nat → Prop where
  | one {a : UInt8} {point : Nat} (lead : a.toNat < 0x80) (spelled : a.toNat = point) :
      Form [a] point
  | two {a b : UInt8} {point : Nat} (lead : 0xC2 ≤ a.toNat ∧ a.toNat < 0xE0)
      (second : isSecond a b = true)
      (spelled : (a.toNat - 0xC0) * 0x40 + (b.toNat - 0x80) = point) : Form [a, b] point
  | three {a b c : UInt8} {point : Nat} (lead : 0xE0 ≤ a.toNat ∧ a.toNat < 0xF0)
      (second : isSecond a b = true) (third : isTail c = true)
      (spelled : ((a.toNat - 0xE0) * 0x40 + (b.toNat - 0x80)) * 0x40 + (c.toNat - 0x80) =
        point) : Form [a, b, c] point
  | four {a b c d : UInt8} {point : Nat} (lead : 0xF0 ≤ a.toNat ∧ a.toNat ≤ 0xF4)
      (second : isSecond a b = true) (third : isTail c = true) (fourth : isTail d = true)
      (spelled : (((a.toNat - 0xF0) * 0x40 + (b.toNat - 0x80)) * 0x40 + (c.toNat - 0x80)) *
        0x40 + (d.toNat - 0x80) = point) : Form [a, b, c, d] point

/-- A form is read as the character that it spells, whatever follows. -/
theorem next_of_form (index : Nat) {front : List UInt8} {point : Nat} (form : Form front point)
    (rest : List UInt8) : next index (front ++ rest) = .ok (Char.ofNat point, rest) := by
  cases form with
  | one lead spelled =>
    subst spelled
    simp only [List.singleton_append, next, UInt8.lt_iff_toNat_lt, UInt8.reduceToNat,
      if_pos lead, spell, List.foldl_nil]
  | @two a b _ lead second spelled =>
    subst spelled
    have notOne : ¬ a.toNat < 0x80 := by omega
    have proper : ¬ (a.toNat < 0xC2 ∨ 0xF4 < a.toNat) := by omega
    simp only [List.cons_append, List.nil_append, next, UInt8.lt_iff_toNat_lt,
      UInt8.reduceToNat, Bool.or_eq_true, decide_eq_true_eq, Bool.not_eq_true', if_neg notOne,
      if_neg proper, second, Bool.true_eq_false, if_false, if_pos lead.2, spell,
      List.foldl_cons, List.foldl_nil]
  | @three a b c _ lead second third spelled =>
    subst spelled
    have notOne : ¬ a.toNat < 0x80 := by omega
    have proper : ¬ (a.toNat < 0xC2 ∨ 0xF4 < a.toNat) := by omega
    have notTwo : ¬ a.toNat < 0xE0 := by omega
    simp only [List.cons_append, List.nil_append, next, UInt8.lt_iff_toNat_lt,
      UInt8.reduceToNat, Bool.or_eq_true, decide_eq_true_eq, Bool.not_eq_true', if_neg notOne,
      if_neg proper, second, third, Bool.true_eq_false, if_false, if_neg notTwo, if_pos lead.2,
      spell, List.foldl_cons, List.foldl_nil]
  | @four a b c d _ lead second third fourth spelled =>
    subst spelled
    have notOne : ¬ a.toNat < 0x80 := by omega
    have proper : ¬ (a.toNat < 0xC2 ∨ 0xF4 < a.toNat) := by omega
    have notTwo : ¬ a.toNat < 0xE0 := by omega
    have notThree : ¬ a.toNat < 0xF0 := by omega
    simp only [List.cons_append, List.nil_append, next, UInt8.lt_iff_toNat_lt,
      UInt8.reduceToNat, Bool.or_eq_true, decide_eq_true_eq, Bool.not_eq_true', if_neg notOne,
      if_neg proper, second, third, fourth, Bool.true_eq_false, if_false, if_neg notTwo,
      if_neg notThree, spell, List.foldl_cons, List.foldl_nil]

/-- A character is read from nothing but a form that spells it. -/
theorem form_of_next {index : Nat} {bytes rest : List UInt8} {c : Char}
    (read : next index bytes = .ok (c, rest)) :
    ∃ front point, bytes = front ++ rest ∧ Form front point ∧ c = Char.ofNat point := by
  -- The branches of the reader in their order; each either refuses or has found its form.
  unfold next at read
  split at read
  · cases read
  rename_i a rest
  split at read
  · rename_i lead
    simp only [Except.ok.injEq, Prod.mk.injEq] at read
    obtain ⟨rfl, rfl⟩ := read
    exact ⟨[a], _, rfl, .one (UInt8.lt_iff_toNat_lt.mp lead) rfl, rfl⟩
  rename_i notOne
  split at read
  · cases read
  rename_i proper
  simp only [Bool.or_eq_true, decide_eq_true_eq, UInt8.lt_iff_toNat_lt, UInt8.reduceToNat]
    at notOne proper
  split at read
  · cases read
  rename_i b rest
  split at read
  · cases read
  rename_i second
  rw [Bool.not_eq_true', Bool.not_eq_false] at second
  split at read
  · rename_i lead
    simp only [Except.ok.injEq, Prod.mk.injEq] at read
    obtain ⟨rfl, rfl⟩ := read
    exact ⟨[a, b], _, rfl, .two ⟨by omega, UInt8.lt_iff_toNat_lt.mp lead⟩ second rfl, rfl⟩
  rename_i notTwo
  have long : ¬ a.toNat < 0xE0 := fun short => notTwo (UInt8.lt_iff_toNat_lt.mpr short)
  split at read
  · cases read
  rename_i c rest
  split at read
  · cases read
  rename_i third
  rw [Bool.not_eq_true', Bool.not_eq_false] at third
  split at read
  · rename_i lead
    simp only [Except.ok.injEq, Prod.mk.injEq] at read
    obtain ⟨rfl, rfl⟩ := read
    exact ⟨[a, b, c], _, rfl,
      .three ⟨by omega, UInt8.lt_iff_toNat_lt.mp lead⟩ second third rfl, rfl⟩
  rename_i notThree
  have longest : ¬ a.toNat < 0xF0 := fun short => notThree (UInt8.lt_iff_toNat_lt.mpr short)
  split at read
  · cases read
  rename_i d rest
  split at read
  · cases read
  rename_i fourth
  rw [Bool.not_eq_true', Bool.not_eq_false] at fourth
  simp only [Except.ok.injEq, Prod.mk.injEq] at read
  obtain ⟨rfl, rfl⟩ := read
  exact ⟨[a, b, c, d], _, rfl, .four (by omega) second third fourth rfl, rfl⟩

/-! ## The form that is written -/

theorem toNat_ofNat (number : Nat) (small : number < 256) :
    (UInt8.ofNat number).toNat = number :=
  UInt8.toNat_ofNat_of_lt' small

/-- Characters lie below the surrogates, or above them and below the end. -/
theorem toNat_bounds (c : Char) : c.toNat < 0xD800 ∨ 0xDFFF < c.toNat ∧ c.toNat < 0x110000 :=
  c.valid

theorem toNat_ofNat_char {point : Nat}
    (valid : point < 0xD800 ∨ 0xDFFF < point ∧ point < 0x110000) :
    (Char.ofNat point).toNat = point := by
  rw [Char.ofNat, dif_pos valid]
  rfl

/-- What is written for a character is a form that spells it. -/
theorem form_encodeChar (c : Char) : Form (encodeChar c) c.toNat := by
  have bounds := toNat_bounds c
  rw [encodeChar]
  by_cases one : c.toNat < 0x80
  · have lead := toNat_ofNat (c.toNat) (by omega)
    rw [if_pos one]
    exact .one (by omega) (by omega)
  by_cases two : c.toNat < 0x800
  · have lead := toNat_ofNat (0xC0 + c.toNat / 0x40) (by omega)
    have second := toNat_ofNat (0x80 + c.toNat % 0x40) (by omega)
    rw [if_neg one, if_pos two]
    exact .two (by omega) ((isSecond_iff _ _).mpr (by omega)) (by omega)
  have third := toNat_ofNat (0x80 + c.toNat / 0x40 % 0x40) (by omega)
  have last := toNat_ofNat (0x80 + c.toNat % 0x40) (by omega)
  by_cases three : c.toNat < 0x10000
  · have lead := toNat_ofNat (0xE0 + c.toNat / 0x1000) (by omega)
    rw [if_neg one, if_neg two, if_pos three]
    exact .three (by omega) ((isSecond_iff _ _).mpr (by omega)) ((isTail_iff _).mpr (by omega))
      (by omega)
  · have lead := toNat_ofNat (0xF0 + c.toNat / 0x40000) (by omega)
    have second := toNat_ofNat (0x80 + c.toNat / 0x1000 % 0x40) (by omega)
    rw [if_neg one, if_neg two, if_neg three]
    exact .four (by omega) ((isSecond_iff _ _).mpr (by omega)) ((isTail_iff _).mpr (by omega))
      ((isTail_iff _).mpr (by omega)) (by omega)

/-- A byte made of the number of another one is that byte. -/
theorem ofNat_eq {number : Nat} (byte : UInt8) (same : number = byte.toNat) :
    UInt8.ofNat number = byte := by
  rw [same, UInt8.ofNat_toNat]

/-- A form is what is written for the character that it spells. -/
theorem encodeChar_of_form {front : List UInt8} {point : Nat} (form : Form front point) :
    encodeChar (Char.ofNat point) = front := by
  -- The bounds on the second byte keep the point in the range of its length, and a character.
  cases form with
  | one lead spelled =>
    rw [encodeChar, toNat_ofNat_char (by omega), if_pos (by omega), ofNat_eq _ spelled.symm]
  | @two a b _ lead second spelled =>
    obtain ⟨tail, -⟩ := (isSecond_iff a b).mp second
    rw [encodeChar, toNat_ofNat_char (by omega), if_neg (by omega), if_pos (by omega),
      ofNat_eq a (by omega), ofNat_eq b (by omega)]
  | @three a b c _ lead second third spelled =>
    obtain ⟨tail, low, -, high, -⟩ := (isSecond_iff a b).mp second
    have last := (isTail_iff c).mp third
    rw [encodeChar, toNat_ofNat_char (by omega), if_neg (by omega), if_neg (by omega),
      if_pos (by omega), ofNat_eq a (by omega), ofNat_eq b (by omega),
      ofNat_eq c (by omega)]
  | @four a b c d _ lead second third fourth spelled =>
    obtain ⟨tail, -, low, -, high⟩ := (isSecond_iff a b).mp second
    have inner := (isTail_iff c).mp third
    have last := (isTail_iff d).mp fourth
    rw [encodeChar, toNat_ofNat_char (by omega), if_neg (by omega), if_neg (by omega),
      if_neg (by omega), ofNat_eq a (by omega), ofNat_eq b (by omega),
      ofNat_eq c (by omega), ofNat_eq d (by omega)]

/-! ## Whole lists -/

theorem decodeFrom_nil (index : Nat) : decodeFrom index [] = .ok [] := by
  rw [decodeFrom]
  rfl

/-- A character that is read at the front comes before what is read from the rest. -/
theorem decodeFrom_of_next {index : Nat} {bytes rest : List UInt8} {c : Char}
    (read : next index bytes = .ok (c, rest)) :
    decodeFrom index bytes =
      (decodeFrom (index + (bytes.length - rest.length)) rest).map (c :: ·) := by
  have nonempty : bytes.isEmpty = false := by
    cases bytes with
    | nil => cases read
    | cons => rfl
  rw [decodeFrom, nonempty]
  simp only [Bool.false_eq_true, if_false]
  split
  · rename_i failed
    rw [read] at failed
    cases failed
  · rename_i found
    rw [read] at found
    cases found
    rfl

/-- Where no character is read nothing is. -/
theorem decodeFrom_of_next_error {index : Nat} {bytes : List UInt8} {fault : Fault}
    (nonempty : bytes ≠ []) (refused : next index bytes = .error fault) :
    decodeFrom index bytes = .error fault := by
  rw [decodeFrom, List.isEmpty_eq_false_iff.mpr nonempty]
  simp only [Bool.false_eq_true, if_false]
  split
  · rename_i failed
    rw [refused] at failed
    cases failed
    rfl
  · rename_i found
    rw [refused] at found
    cases found

/-- Characters are read back from their bytes. -/
theorem decodeFrom_encode (index : Nat) (characters : List Char) :
    decodeFrom index (encode characters) = .ok characters := by
  induction characters generalizing index with
  | nil => exact decodeFrom_nil index
  | cons c rest ih =>
    have read : next index (encode (c :: rest)) = .ok (c, encode rest) := by
      have front := next_of_form index (form_encodeChar c) (encode rest)
      rwa [Char.ofNat_toNat] at front
    rw [decodeFrom_of_next read, ih]
    rfl

/-- Bytes from which characters are read are the bytes of those characters. -/
theorem encode_of_decodeFrom {index : Nat} {bytes : List UInt8} {characters : List Char}
    (read : decodeFrom index bytes = .ok characters) : encode characters = bytes := by
  induction bytes using (measure List.length).wf.induction generalizing index characters with
  | _ bytes ih =>
    by_cases empty : bytes = []
    · subst empty
      rw [decodeFrom_nil] at read
      cases read
      rfl
    cases found : next index bytes with
    | error fault =>
      rw [decodeFrom_of_next_error empty found] at read
      cases read
    | ok pair =>
      obtain ⟨c, rest⟩ := pair
      rw [decodeFrom_of_next found] at read
      cases later : decodeFrom (index + (bytes.length - rest.length)) rest with
      | error fault =>
        rw [later] at read
        cases read
      | ok others =>
        rw [later] at read
        cases read
        obtain ⟨front, point, split, form, rfl⟩ := form_of_next found
        change encodeChar (Char.ofNat point) ++ encode others = bytes
        rw [encodeChar_of_form form, ih rest (next_length_lt found) later, split]

/-- **A text is read back from its bytes.** -/
theorem toString?_ofString (text : String) : toString? (ofString text) = .ok text := by
  rw [toString?, decode, ofString, decodeFrom_encode]
  exact congrArg Except.ok String.ofList_toList

/-- Texts with the same bytes are the same. -/
theorem ofString_injective : Function.Injective ofString := by
  intro first second same
  have read := toString?_ofString first
  rw [same, toString?_ofString] at read
  exact (Except.ok.inj read).symm

/-- **Bytes from which a text is read are the bytes of that text.** -/
theorem ofString_of_toString? {bytes : List UInt8} {text : String}
    (read : toString? bytes = .ok text) : ofString text = bytes := by
  unfold toString? at read
  cases spelled : decode bytes with
  | error fault =>
    rw [spelled] at read
    cases read
  | ok characters =>
    rw [spelled] at read
    cases read
    rw [ofString, String.toList_ofList]
    exact encode_of_decodeFrom spelled

/-- ASCII bytes taken for a text are the bytes of that text. -/
theorem encode_map_ofNat {bytes : List UInt8} (ascii : ∀ byte ∈ bytes, byte.toNat < 0x80) :
    encode (bytes.map fun byte => Char.ofNat byte.toNat) = bytes := by
  induction bytes with
  | nil => rfl
  | cons byte rest ih =>
    have front : encodeChar (Char.ofNat byte.toNat) = [byte] :=
      encodeChar_of_form (.one (ascii byte List.mem_cons_self) rfl)
    change encodeChar (Char.ofNat byte.toNat) ++ encode _ = byte :: rest
    rw [front, ih fun other member => ascii other (List.mem_cons_of_mem _ member)]
    rfl

/-- Whoever replaces what cannot be read has nothing to replace in the bytes of characters. -/
theorem decodeLossy_encode (characters : List Char) :
    decodeLossy (encode characters) = characters := by
  induction characters with
  | nil =>
    rw [decodeLossy]
    rfl
  | cons c rest ih =>
    have read : next 0 (encode (c :: rest)) = .ok (c, encode rest) := by
      have front := next_of_form 0 (form_encodeChar c) (encode rest)
      rwa [Char.ofNat_toNat] at front
    have nonempty : (encode (c :: rest)).isEmpty = false := by
      cases bytes : encode (c :: rest) with
      | nil =>
        rw [bytes] at read
        cases read
      | cons => rfl
    rw [decodeLossy, nonempty]
    simp only [Bool.false_eq_true, if_false]
    split
    · rename_i failed
      rw [read] at failed
      cases failed
    · rename_i found
      rw [read] at found
      cases found
      rw [ih]

/-! ## The bytes of the standard library -/

/-- The bytes of a character are those of the standard library. -/
theorem encodeChar_eq (c : Char) : encodeChar c = String.utf8EncodeChar c := by
  have bounds := toNat_bounds c
  have point : c.val.toNat = c.toNat := rfl
  have tail (number : Nat) : 0x80 + number % 0x40 = number % 64 + 128 := by omega
  rw [encodeChar, String.utf8EncodeChar, point]
  by_cases one : c.toNat < 0x80
  · rw [if_pos one, if_pos (by omega)]
  by_cases two : c.toNat < 0x800
  · have lead : 0xC0 + c.toNat / 0x40 = c.toNat / 64 % 32 + 192 := by omega
    rw [if_neg one, if_pos two, if_neg (by omega), if_pos (by omega), lead, tail]
  by_cases three : c.toNat < 0x10000
  · have lead : 0xE0 + c.toNat / 0x1000 = c.toNat / 4096 % 16 + 224 := by omega
    rw [if_neg one, if_neg two, if_pos three, if_neg (by omega), if_neg (by omega),
      if_pos (by omega), lead, tail, tail]
  · have lead : 0xF0 + c.toNat / 0x40000 = c.toNat / 262144 % 8 + 240 := by omega
    rw [if_neg one, if_neg two, if_neg three, if_neg (by omega), if_neg (by omega),
      if_neg (by omega), lead, tail, tail, tail]

/-- The bytes of a text are those that the standard library keeps it in. -/
theorem toByteArray_ofString (text : String) : (ofString text).toByteArray = text.toUTF8 := by
  have same : encodeChar = String.utf8EncodeChar := funext encodeChar_eq
  rw [ofString, encode, same]
  exact String.utf8Encode_toList

/-- **A text is read from its bytes and from no others.** -/
theorem toString?_eq_ok_iff {bytes : List UInt8} {text : String} :
    toString? bytes = .ok text ↔ text.toUTF8 = bytes.toByteArray := by
  rw [← toByteArray_ofString, List.toByteArray_inj]
  constructor
  · exact ofString_of_toString?
  · rintro rfl
    exact toString?_ofString text

/-- **Valid bytes are those from which a text is read.** -/
theorem isValidUTF8_iff {bytes : List UInt8} :
    bytes.toByteArray.IsValidUTF8 ↔ ∃ text, toString? bytes = .ok text := by
  simp only [toString?_eq_ok_iff]
  constructor
  · intro valid
    exact ⟨⟨bytes.toByteArray, valid⟩, rfl⟩
  · rintro ⟨text, same⟩
    rw [← same]
    exact text.isValidUTF8

end SealedCredentials.Text.Utf8
