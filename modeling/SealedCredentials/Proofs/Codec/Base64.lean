import SealedCredentials.Codec.Base64
import SealedCredentials.Proofs.Except
import SealedCredentials.Proofs.Text.Blank
import SealedCredentials.Proofs.Text.Utf8
import Mathlib.Logic.Function.Basic

/-!
# Base64 is read back

A group of three bytes is written as four symbols and read back from them; a last group of one
or two bytes is filled up with padding, which the reader counts.  Since the unused bits of a
last symbol are written as zeros, every list of bytes is read back from its written form
(`decode_encode`).

The reader takes nothing else.  What it accepts of a last group is symbols and as much padding as
they leave room for, with zeros in the unused bits, and that is what is written for the bytes it
gives (`encode_of_decode`).  Taken for a text, the written form has nothing to trim
(`trim_text`), and a list of bytes is read from this one text only
(`decode_ofString_eq_ok_iff`).

Its length tells the length of the list up to two bytes (`length_encode`), and the symbol at a place
tells no more than the six bits that it holds (`getElem?_encode_congr`).
-/

set_option autoImplicit false

namespace SealedCredentials.Codec.Base64

/-! ## Symbols -/

/-- A symbol has its value, is not the padding, and is a visible ASCII character. -/
theorem symbol_spec : ∀ value : Fin 64,
    value? (symbol value) = some value.val ∧ symbol value ≠ pad ∧ (symbol value).toNat < 0x80 ∧
      Text.isBlank (Char.ofNat (symbol value).toNat) = false := by
  decide

theorem valueAt_symbol (offset : Nat) {value : Nat} (small : value < 64) :
    valueAt offset (symbol value) = .ok value := by
  rw [valueAt, (symbol_spec ⟨value, small⟩).1]

theorem symbol_ne_pad {value : Nat} (small : value < 64) : symbol value ≠ pad :=
  (symbol_spec ⟨value, small⟩).2.1

/-! ## The last group -/

/-- A symbol of the last group gives its value and leaves the padding to be counted. -/
theorem lastValues_symbol (offset index : Nat) {value : Nat} (small : value < 64)
    {rest : List UInt8} {values : List Nat} {padding : Nat}
    (read : lastValues offset (index + 1) rest = .ok (values, padding)) :
    lastValues offset index (symbol value :: rest) = .ok (value :: values, padding) := by
  rw [lastValues, if_neg (symbol_ne_pad small), valueAt_symbol _ small, read]
  rfl

theorem decodeLast_nil (offset : Nat) : decodeLast offset [] = .ok [] := rfl

/-- Two symbols and two paddings make one byte. -/
theorem decodeLast_two {offset a b : Nat} {bytes : List UInt8} (nonempty : bytes ≠ [])
    (read : lastValues offset 0 bytes = .ok ([a, b], 2)) (unused : b % 16 = 0) :
    decodeLast offset bytes = .ok [UInt8.ofNat (a * 4 + b / 16)] := by
  simp only [decodeLast, read, bind, Except.bind, List.isEmpty_eq_false_iff.mpr nonempty, pure,
    Except.pure]
  simp [unused]

/-- Three symbols and one padding make two bytes. -/
theorem decodeLast_three {offset a b c : Nat} {bytes : List UInt8} (nonempty : bytes ≠ [])
    (read : lastValues offset 0 bytes = .ok ([a, b, c], 1)) (unused : c % 4 = 0) :
    decodeLast offset bytes =
      .ok [UInt8.ofNat (a * 4 + b / 16), UInt8.ofNat (b % 16 * 16 + c / 4)] := by
  simp only [decodeLast, read, bind, Except.bind, List.isEmpty_eq_false_iff.mpr nonempty, pure,
    Except.pure]
  simp [unused]

/-- Four symbols make three bytes. -/
theorem decodeLast_four {offset a b c d : Nat} {bytes : List UInt8} (nonempty : bytes ≠ [])
    (read : lastValues offset 0 bytes = .ok ([a, b, c, d], 0)) :
    decodeLast offset bytes = .ok (group a b c d) := by
  simp only [decodeLast, read, bind, Except.bind, List.isEmpty_eq_false_iff.mpr nonempty, pure,
    Except.pure]
  simp

/-! ## Whole lists -/

/-- Three bytes are put together again from the values of their four symbols. -/
theorem group_values (a b c : UInt8) :
    group (a.toNat / 4) (a.toNat % 4 * 16 + b.toNat / 16) (b.toNat % 16 * 4 + c.toNat / 64)
      (c.toNat % 64) = [a, b, c] := by
  have := a.toNat_lt
  have := b.toNat_lt
  have := c.toNat_lt
  rw [group, Text.Utf8.ofNat_eq a (by omega), Text.Utf8.ofNat_eq b (by omega),
    Text.Utf8.ofNat_eq c (by omega)]

/-- The written form of a list is read back wherever its first group stands. -/
theorem decodeFrom_encode (offset : Nat) (bytes : List UInt8) :
    decodeFrom offset (encode bytes) = .ok bytes := by
  induction bytes using encode.induct generalizing offset with
  | case1 => exact decodeLast_nil offset
  | case2 a =>
    have := a.toNat_lt
    have read : lastValues offset 0 (encode [a]) = .ok ([a.toNat / 4, a.toNat % 4 * 16], 2) :=
      lastValues_symbol offset 0 (by omega) (lastValues_symbol offset 1 (by omega) rfl)
    have nonempty : encode [a] ≠ [] := by
      rw [encode]
      exact List.cons_ne_nil _ _
    change decodeLast offset (encode [a]) = _
    rw [decodeLast_two nonempty read (by omega), Text.Utf8.ofNat_eq a (by omega)]
  | case3 a b =>
    have := a.toNat_lt
    have := b.toNat_lt
    have read : lastValues offset 0 (encode [a, b]) =
        .ok ([a.toNat / 4, a.toNat % 4 * 16 + b.toNat / 16, b.toNat % 16 * 4], 1) :=
      lastValues_symbol offset 0 (by omega)
        (lastValues_symbol offset 1 (by omega) (lastValues_symbol offset 2 (by omega) rfl))
    have nonempty : encode [a, b] ≠ [] := by
      rw [encode]
      exact List.cons_ne_nil _ _
    change decodeLast offset (encode [a, b]) = _
    rw [decodeLast_three nonempty read (by omega), Text.Utf8.ofNat_eq a (by omega),
      Text.Utf8.ofNat_eq b (by omega)]
  | case4 a b c rest ih =>
    have := a.toNat_lt
    have := b.toNat_lt
    have := c.toNat_lt
    rw [encode]
    -- A full group is the last one exactly when nothing is written after it.
    cases later : encode rest with
    | nil =>
      have none : rest = [] := by
        have read := ih offset
        rw [later] at read
        exact (Except.ok.inj read).symm
      subst none
      have read : lastValues offset 0 [symbol (a.toNat / 4),
          symbol (a.toNat % 4 * 16 + b.toNat / 16), symbol (b.toNat % 16 * 4 + c.toNat / 64),
          symbol (c.toNat % 64)] = .ok ([a.toNat / 4, a.toNat % 4 * 16 + b.toNat / 16,
            b.toNat % 16 * 4 + c.toNat / 64, c.toNat % 64], 0) :=
        lastValues_symbol offset 0 (by omega) (lastValues_symbol offset 1 (by omega)
          (lastValues_symbol offset 2 (by omega) (lastValues_symbol offset 3 (by omega) rfl)))
      change decodeLast offset _ = _
      rw [decodeLast_four (List.cons_ne_nil _ _) read, group_values]
    | cons e others =>
      rw [decodeFrom, ← later, ih, valueAt_symbol _ (by omega), valueAt_symbol _ (by omega),
        valueAt_symbol _ (by omega), valueAt_symbol _ (by omega)]
      simp only [bind, Except.bind, pure, Except.pure, group_values, List.cons_append,
        List.nil_append]

/-- Groups are written whole. -/
theorem length_encode_mod (bytes : List UInt8) : (encode bytes).length % 4 = 0 := by
  induction bytes using encode.induct with
  | case1 => rfl
  | case2 a => simp only [encode, List.length_cons, List.length_nil, Nat.reduceAdd, Nat.mod_self]
  | case3 a b => simp only [encode, List.length_cons, List.length_nil, Nat.reduceAdd, Nat.mod_self]
  | case4 a b c rest ih =>
    simp only [encode, List.length_cons]
    omega

/-- **A list of bytes is read back from its written form.** -/
theorem decode_encode (bytes : List UInt8) : decode (encode bytes) = .ok bytes := by
  have whole : ¬ (encode bytes).length % 4 = 1 := by
    rw [length_encode_mod]
    decide
  unfold decode
  split
  · simp only [whole, decide_false, Bool.false_and, Bool.false_eq_true, if_false,
      decodeFrom_encode]
  · rename_i empty
    rw [List.getLast?_eq_none_iff] at empty
    have read := decodeFrom_encode 0 bytes
    rwa [empty] at read

/-! ## Only the written form is read -/

/-- Whatever byte has a value is the symbol of that value. -/
theorem value?_spec : ∀ place : Fin 256, ∀ value ∈ value? (UInt8.ofNat place),
    value < 64 ∧ symbol value = UInt8.ofNat place := by
  decide +kernel

theorem symbol_of_value? {byte : UInt8} {value : Nat} (read : value? byte = some value) :
    value < 64 ∧ symbol value = byte := by
  have spec := value?_spec ⟨byte.toNat, byte.toNat_lt⟩
  simp only [UInt8.ofNat_toNat] at spec
  exact spec value read

theorem symbol_of_valueAt {offset value : Nat} {byte : UInt8}
    (read : valueAt offset byte = .ok value) : value < 64 ∧ symbol value = byte := by
  cases found : value? byte with
  | none =>
    rw [valueAt, found] at read
    cases read
  | some other =>
    rw [valueAt, found] at read
    cases read
    exact symbol_of_value? found

/-- What is read of the last group is symbols, and then padding. -/
theorem eq_of_lastValues {offset index padding : Nat} {bytes : List UInt8} {values : List Nat}
    (read : lastValues offset index bytes = .ok (values, padding)) :
    bytes = values.map symbol ++ List.replicate padding pad ∧ ∀ value ∈ values, value < 64 := by
  induction bytes generalizing index values with
  | nil =>
    cases read
    simp
  | cons byte rest ih =>
    rw [lastValues] at read
    split at read
    · rename_i padded
      split at read
      · cases read
      · split at read
        · rename_i alike
          cases read
          have all : rest = List.replicate rest.length pad :=
            List.eq_replicate_iff.mpr ⟨rfl, fun other member =>
              beq_iff_eq.mp (List.all_eq_true.mp alike other member)⟩
          rw [padded, List.map_nil, List.nil_append, List.replicate_succ, ← all]
          simp
        · cases read
    · obtain ⟨value, first, read⟩ := bind_eq_ok_iff.mp read
      obtain ⟨⟨others, count⟩, later, read⟩ := bind_eq_ok_iff.mp read
      cases read
      obtain ⟨small, same⟩ := symbol_of_valueAt first
      obtain ⟨split, below⟩ := ih later
      rw [List.map_cons, List.cons_append, same, ← split]
      exact ⟨rfl, List.forall_mem_cons.mpr ⟨small, below⟩⟩

/-- Three bytes are written with the symbols of the four values that they were made of. -/
theorem encode_group_append {a b c d : Nat} (small : (a < 64 ∧ b < 64) ∧ c < 64 ∧ d < 64)
    (rest : List UInt8) :
    encode (group a b c d ++ rest) =
      symbol a :: symbol b :: symbol c :: symbol d :: encode rest := by
  have upper := Text.Utf8.toNat_ofNat (a * 4 + b / 16) (by omega)
  have middle := Text.Utf8.toNat_ofNat (b % 16 * 16 + c / 4) (by omega)
  have lower := Text.Utf8.toNat_ofNat (c % 4 * 64 + d) (by omega)
  have first : (a * 4 + b / 16) / 4 = a := by omega
  have second : (a * 4 + b / 16) % 4 * 16 + (b % 16 * 16 + c / 4) / 16 = b := by omega
  have third : (b % 16 * 16 + c / 4) % 16 * 4 + (c % 4 * 64 + d) / 64 = c := by omega
  have fourth : (c % 4 * 64 + d) % 64 = d := by omega
  simp only [group, List.cons_append, List.nil_append, encode, upper, middle, lower, first, second,
    third, fourth]

/-- A last group of two values and as much padding is written for the one byte of the values. -/
theorem encode_pair {a b : Nat} (small : a < 64 ∧ b < 64) (unused : b % 16 = 0) :
    encode [UInt8.ofNat (a * 4 + b / 16)] = [symbol a, symbol b, pad, pad] := by
  have only := Text.Utf8.toNat_ofNat (a * 4 + b / 16) (by omega)
  have first : (a * 4 + b / 16) / 4 = a := by omega
  have second : (a * 4 + b / 16) % 4 * 16 = b := by omega
  simp only [encode, only, first, second]

/-- A last group of three values and one padding is written for the two bytes of the values. -/
theorem encode_triple {a b c : Nat} (small : a < 64 ∧ b < 64 ∧ c < 64) (unused : c % 4 = 0) :
    encode [UInt8.ofNat (a * 4 + b / 16), UInt8.ofNat (b % 16 * 16 + c / 4)] =
      [symbol a, symbol b, symbol c, pad] := by
  have upper := Text.Utf8.toNat_ofNat (a * 4 + b / 16) (by omega)
  have lower := Text.Utf8.toNat_ofNat (b % 16 * 16 + c / 4) (by omega)
  have first : (a * 4 + b / 16) / 4 = a := by omega
  have second : (a * 4 + b / 16) % 4 * 16 + (b % 16 * 16 + c / 4) / 16 = b := by omega
  have third : (b % 16 * 16 + c / 4) % 16 * 4 = c := by omega
  simp only [encode, upper, lower, first, second, third]

/-- Bytes that are read from a last group are written as that group. -/
theorem encode_of_decodeLast {offset : Nat} {bytes raw : List UInt8} (short : bytes.length ≤ 4)
    (read : decodeLast offset bytes = .ok raw) : encode raw = bytes := by
  by_cases empty : bytes = []
  · subst empty
    cases read
    rfl
  have nonempty : 0 < bytes.length := List.length_pos_iff.mpr empty
  obtain ⟨⟨values, padding⟩, found, read⟩ := bind_eq_ok_iff.mp read
  obtain ⟨rfl, small⟩ := eq_of_lastValues found
  rw [List.length_append, List.length_map, List.length_replicate] at short nonempty
  simp only [bind, Except.bind, pure, Except.pure, throw, throwThe, MonadExceptOf.throw,
    List.isEmpty_eq_false_iff.mpr empty, Bool.false_eq_true, if_false] at read
  split at read
  · cases read
  rename_i enough
  split at read
  · cases read
  rename_i filled
  -- Values and padding fill up four places, so their number gives that of the padding.
  split at read
  · rename_i a b
    split at read
    · cases read
    rename_i unused
    have two : padding = 2 := by
      simp only [List.length_cons, List.length_nil] at short nonempty filled
      omega
    cases read
    simp only [List.forall_mem_cons] at small
    rw [encode_pair ⟨small.1, small.2.1⟩ (by omega), two]
    rfl
  · rename_i a b c
    split at read
    · cases read
    rename_i unused
    have one : padding = 1 := by
      simp only [List.length_cons, List.length_nil] at short nonempty filled
      omega
    cases read
    simp only [List.forall_mem_cons] at small
    rw [encode_triple ⟨small.1, small.2.1, small.2.2.1⟩ (by omega), one]
    rfl
  · rename_i a b c d
    have none : padding = 0 := by
      simp only [List.length_cons, List.length_nil] at short
      omega
    cases read
    simp only [List.forall_mem_cons] at small
    have written := encode_group_append ⟨⟨small.1, small.2.1⟩, small.2.2.1, small.2.2.2.1⟩ []
    rw [List.append_nil] at written
    rw [written, none]
    rfl
  · rename_i notTwo notThree notFour
    exfalso
    match values, notTwo, notThree, notFour with
    | [], _, _, _ => simp at enough
    | [_], _, _, _ => simp at enough
    | [a, b], absent, _, _ => exact absent a b rfl
    | [a, b, c], _, absent, _ => exact absent a b c rfl
    | [a, b, c, d], _, _, absent => exact absent a b c d rfl
    | _ :: _ :: _ :: _ :: _ :: _, _, _, _ =>
      simp only [List.length_cons] at short
      omega

/-- Bytes that are read are written as they were, wherever their first group stands. -/
theorem encode_of_decodeFrom {offset : Nat} {bytes raw : List UInt8}
    (read : decodeFrom offset bytes = .ok raw) : encode raw = bytes := by
  induction offset, bytes using decodeFrom.induct generalizing raw with
  | case1 offset a b c d e rest ih =>
    rw [decodeFrom] at read
    obtain ⟨w, first, read⟩ := bind_eq_ok_iff.mp read
    obtain ⟨x, second, read⟩ := bind_eq_ok_iff.mp read
    obtain ⟨y, third, read⟩ := bind_eq_ok_iff.mp read
    obtain ⟨z, fourth, read⟩ := bind_eq_ok_iff.mp read
    obtain ⟨others, later, read⟩ := bind_eq_ok_iff.mp read
    cases read
    obtain ⟨smallFirst, rfl⟩ := symbol_of_valueAt first
    obtain ⟨smallSecond, rfl⟩ := symbol_of_valueAt second
    obtain ⟨smallThird, rfl⟩ := symbol_of_valueAt third
    obtain ⟨smallFourth, rfl⟩ := symbol_of_valueAt fourth
    rw [encode_group_append ⟨⟨smallFirst, smallSecond⟩, smallThird, smallFourth⟩, ih later]
  | case2 offset bytes short =>
    rw [decodeFrom] at read
    · refine encode_of_decodeLast ?_ read
      match bytes, short with
      | [], _ => simp
      | [_], _ => simp
      | [_, _], _ => simp
      | [_, _, _], _ => simp
      | [_, _, _, _], _ => simp
      | a :: b :: c :: d :: e :: rest, short => exact absurd rfl (short a b c d e rest)
    · exact short

/-- **Bytes that are read are written as they were**: there are no two forms of one list. -/
theorem encode_of_decode {bytes raw : List UInt8} (read : decode bytes = .ok raw) :
    encode raw = bytes := by
  unfold decode at read
  split at read
  · split at read
    · cases read
    · exact encode_of_decodeFrom read
  · rename_i empty
    rw [List.getLast?_eq_none_iff.mp empty]
    cases read
    rfl

/-- A list of bytes is read from its written form and from no other. -/
theorem decode_eq_ok_iff {bytes raw : List UInt8} :
    decode bytes = .ok raw ↔ bytes = encode raw := by
  constructor
  · intro read
    exact (encode_of_decode read).symm
  · rintro rfl
    exact decode_encode raw

/-! ## The written form as a text -/

/-- What holds of all symbols and of the padding holds of everything that is written. -/
theorem forall_mem_encode {holds : UInt8 → Prop} (symbols : ∀ value : Fin 64, holds (symbol value))
    (padding : holds pad) (bytes : List UInt8) : ∀ byte ∈ encode bytes, holds byte := by
  have ofSymbol {value : Nat} (small : value < 64) : holds (symbol value) := symbols ⟨value, small⟩
  induction bytes using encode.induct with
  | case1 =>
    intro byte member
    cases member
  | case2 a =>
    have := a.toNat_lt
    simp only [encode, List.forall_mem_cons]
    exact ⟨ofSymbol (by omega), ofSymbol (by omega), padding, padding, by simp⟩
  | case3 a b =>
    have := a.toNat_lt
    have := b.toNat_lt
    simp only [encode, List.forall_mem_cons]
    exact ⟨ofSymbol (by omega), ofSymbol (by omega), ofSymbol (by omega), padding, by simp⟩
  | case4 a b c rest ih =>
    have := a.toNat_lt
    have := b.toNat_lt
    have := c.toNat_lt
    simp only [encode, List.forall_mem_cons]
    exact ⟨ofSymbol (by omega), ofSymbol (by omega), ofSymbol (by omega), ofSymbol (by omega), ih⟩

/-- What is written is visible ASCII. -/
theorem visible_of_mem_encode (bytes : List UInt8) : ∀ byte ∈ encode bytes,
    byte.toNat < 0x80 ∧ Text.isBlank (Char.ofNat byte.toNat) = false :=
  forall_mem_encode (fun value => (symbol_spec value).2.2) (by decide) bytes

/-- The bytes of the written form are the symbols. -/
theorem ofString_text (bytes : List UInt8) : Text.Utf8.ofString (text bytes) = encode bytes := by
  rw [text, Text.Utf8.ofString, String.toList_ofList]
  exact Text.Utf8.encode_map_ofNat fun byte member => (visible_of_mem_encode bytes byte member).1

/-- Trimming leaves the written form as it is. -/
theorem trim_text (bytes : List UInt8) : Text.trim (text bytes) = text bytes := by
  have visible : ∀ c ∈ (text bytes).toList, Text.isBlank c = false := by
    rw [text, String.toList_ofList]
    intro c member
    obtain ⟨byte, written, rfl⟩ := List.mem_map.mp member
    exact (visible_of_mem_encode bytes byte written).2
  rw [Text.trim, Text.trimmed_of_forall visible, String.ofList_toList]

/-- **A list of bytes is read from its written form as a text and from no other text.** -/
theorem decode_ofString_eq_ok_iff {written : String} {bytes : List UInt8} :
    decode (Text.Utf8.ofString written) = .ok bytes ↔ written = text bytes := by
  rw [decode_eq_ok_iff, ← ofString_text]
  exact Text.Utf8.ofString_injective.eq_iff

/-! ## What the written form shows -/

/-- The length of the written form tells how many groups of three bytes there are. -/
theorem length_encode (bytes : List UInt8) :
    (encode bytes).length = (bytes.length + 2) / 3 * 4 := by
  induction bytes using encode.induct with
  | case1 => rfl
  | case2 a => simp [encode]
  | case3 a b => simp [encode]
  | case4 a b c rest ih =>
    simp only [encode, List.length_cons, ih]
    omega

/-- A symbol depends on the bytes of whose bits it is made, and on the length of the list.  The
symbol at a place holds six bits, from `6 * place` on. -/
theorem getElem?_encode_congr {bytes other : List UInt8} (even : bytes.length = other.length)
    {place : Nat} (same : ∀ index, 8 * index < 6 * (place + 1) → 6 * place < 8 * (index + 1) →
      bytes[index]? = other[index]?) : (encode bytes)[place]? = (encode other)[place]? := by
  induction bytes using encode.induct generalizing other place with
  | case1 =>
    rw [List.length_eq_zero_iff.mp even.symm]
  | case2 a =>
    rcases other with _ | ⟨a', _ | ⟨b', rest'⟩⟩ <;> try cases even
    rcases place with _ | _ | _ | _ | place
    · cases same 0 (by omega) (by omega)
      rfl
    · cases same 0 (by omega) (by omega)
      rfl
    · rfl
    · rfl
    · rfl
  | case3 a b =>
    rcases other with _ | ⟨a', _ | ⟨b', _ | ⟨c', rest'⟩⟩⟩ <;> try cases even
    rcases place with _ | _ | _ | _ | place
    · cases same 0 (by omega) (by omega)
      rfl
    · cases same 0 (by omega) (by omega)
      cases same 1 (by omega) (by omega)
      rfl
    · cases same 1 (by omega) (by omega)
      rfl
    · rfl
    · rfl
  | case4 a b c rest ih =>
    rcases other with _ | ⟨a', _ | ⟨b', _ | ⟨c', rest'⟩⟩⟩ <;> try cases even
    rcases place with _ | _ | _ | _ | place
    · cases same 0 (by omega) (by omega)
      rfl
    · cases same 0 (by omega) (by omega)
      cases same 1 (by omega) (by omega)
      rfl
    · cases same 1 (by omega) (by omega)
      cases same 2 (by omega) (by omega)
      rfl
    · cases same 2 (by omega) (by omega)
      rfl
    -- four symbols on, the bits are those of three bytes on
    · have even : rest.length = rest'.length := by simpa using even
      exact ih even fun index since till => same (index + 3) (by omega) (by omega)

end SealedCredentials.Codec.Base64
