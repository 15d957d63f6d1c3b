import SealedCredentials.Proofs.Cipher.Chained

/-!
# What is refused

A ciphertext that is not made of whole blocks is refused for its length.  Of one that is, only the
last block behind it matters: a message is taken out if that block ends in padding
(`Block.IsPadded`), that is in as many bytes as each of them says, one to sixteen.  The last block
depends on no more than the last two blocks of the ciphertext (`unchain_concat`).

Padding at the end of whole blocks is the padding that some message would get
(`isPadded_iff_exists_pad`), so nothing is refused that was encrypted.  `decryption_exact` says all
of this: what decrypts, how long a ciphertext is, and what is refused for which reason.
-/

set_option autoImplicit false

namespace SealedCredentials.Cipher

/-! ## Padding at the end -/

/-- Bytes that end in padding: in between one and sixteen bytes that hold their number. -/
def IsPadded (bytes : List UInt8) : Prop :=
  ∃ count, 1 ≤ count ∧ count ≤ 16 ∧ List.replicate count (UInt8.ofNat count) <:+ bytes

/-- What stands before the last sixteen bytes has no part in the padding. -/
theorem isPadded_append_iff {front back : List UInt8} (long : back.length = 16) :
    IsPadded (front ++ back) ↔ IsPadded back := by
  constructor
  · rintro ⟨count, low, high, ends⟩
    refine ⟨count, low, high, ?_⟩
    apply List.suffix_of_suffix_length_le ends (List.suffix_append front back)
    rw [List.length_replicate, long]
    exact high
  · rintro ⟨count, low, high, ends⟩
    exact ⟨count, low, high, ends.trans (List.suffix_append front back)⟩

/-- Whole blocks end in padding exactly if some message is padded to them. -/
theorem isPadded_iff_exists_pad {bytes : List UInt8} (whole : bytes.length % 16 = 0) :
    IsPadded bytes ↔ ∃ message, bytes = pad message := by
  constructor
  · rintro ⟨count, low, high, message, same⟩
    have length : message.length + count = bytes.length := by
      rw [← same, List.length_append, List.length_replicate]
    have counted : 16 - message.length % 16 = count := by omega
    refine ⟨message, ?_⟩
    rw [pad, counted, same]
  · rintro ⟨message, rfl⟩
    exact ⟨16 - message.length % 16, by omega, Nat.sub_le _ _, List.suffix_append message _⟩

/-- No message can be taken out of whole blocks exactly if they do not end in padding. -/
theorem unpad_eq_none_iff {bytes : List UInt8} (whole : bytes.length % 16 = 0) :
    unpad bytes = none ↔ ¬ IsPadded bytes := by
  rw [isPadded_iff_exists_pad whole]
  constructor
  · rintro refused ⟨message, rfl⟩
    rw [unpad_pad] at refused
    cases refused
  · intro unpadded
    cases taken : unpad bytes with
    | none => rfl
    | some message => exact absurd ⟨message, (pad_of_unpad whole taken).symm⟩ unpadded

/-! ## The last block -/

/-- The last block behind a ciphertext: its last block deciphered, and the block before that one
added, which is the initial block if there is no other. -/
def lastOpened (ciphertext key initial : List UInt8) : Block :=
  let chained := blocks ciphertext
  let first := Block.ofBytes initial
  (decipher (roundKeys key) (chained.getLastD first)).add (chained.dropLast.getLastD first)

/-- The last block of a chain is undone by itself and the one before it. -/
theorem unchain_concat (backward : Block → Block) (previous last : Block) (front : List Block) :
    unchain backward previous (front ++ [last]) =
      unchain backward previous front ++ [(backward last).add (front.getLastD previous)] := by
  induction front generalizing previous with
  | nil => rfl
  | cons block later ih =>
    change (backward block).add previous :: unchain backward block (later ++ [last]) =
      (backward block).add previous :: (unchain backward block later ++ _)
    rw [ih, List.getLastD_cons]

/-- What is behind one or more whole blocks ends with the last block behind them. -/
theorem exists_opened_eq_append {ciphertext : List UInt8}
    (whole : isWhole ciphertext.length = true) (key initial : List UInt8) :
    ∃ front, opened ciphertext key initial =
      front ++ (lastOpened ciphertext key initial).bytes := by
  obtain ⟨positive, aligned⟩ := isWhole_iff.mp whole
  have nonempty : blocks ciphertext ≠ [] := by
    intro none
    have joining := joined_blocks aligned
    rw [none, joined_nil] at joining
    rw [← joining, List.length_nil] at positive
    exact Nat.lt_irrefl 0 positive
  obtain ⟨front, last, split⟩ : ∃ front last, blocks ciphertext = front ++ [last] :=
    ⟨_, _, (List.dropLast_concat_getLast nonempty).symm⟩
  rw [opened, lastOpened, split, unchain_concat, joined, List.flatMap_append,
    List.flatMap_singleton, List.dropLast_concat, List.getLastD_concat]
  exact ⟨_, rfl⟩

/-! ## Refusals -/

variable {ciphertext key initial : List UInt8}

/-- A ciphertext is refused for its length exactly if it is not one or more whole blocks. -/
theorem decrypt_eq_badLength_iff :
    decrypt ciphertext key initial = .error (.badLength ciphertext.length) ↔
      isWhole ciphertext.length = false := by
  constructor
  · intro refused
    cases whole : isWhole ciphertext.length with
    | false => rfl
    | true =>
      rcases decrypt_of_isWhole whole key initial with ⟨message, decrypted⟩ | padding
      · rw [decrypted] at refused
        cases refused
      · rw [padding] at refused
        cases refused
  · intro partly
    exact decrypt_of_not_isWhole partly key initial

/-- A ciphertext is refused for its padding exactly if it is made of whole blocks and the last
block behind it does not end in padding. -/
theorem decrypt_eq_badPadding_iff :
    decrypt ciphertext key initial = .error .badPadding ↔
      isWhole ciphertext.length = true ∧
        ¬ IsPadded (lastOpened ciphertext key initial).bytes := by
  cases whole : isWhole ciphertext.length with
  | false =>
    rw [decrypt_of_not_isWhole whole]
    simp
  | true =>
    obtain ⟨front, split⟩ := exists_opened_eq_append whole key initial
    have taken : unpad (opened ciphertext key initial) = none ↔
        ¬ IsPadded (lastOpened ciphertext key initial).bytes := by
      rw [unpad_eq_none_iff (length_opened_mod ciphertext key initial), split,
        isPadded_append_iff (Block.length_bytes _)]
    rw [decrypt_eq_elim whole, ← taken]
    cases unpad (opened ciphertext key initial) with
    | none => simp
    | some message => simp

/-- A ciphertext is refused for its length or for its padding. -/
theorem exists_decrypt_error_iff :
    (∃ fault, decrypt ciphertext key initial = .error fault) ↔
      decrypt ciphertext key initial = .error (.badLength ciphertext.length) ∨
        decrypt ciphertext key initial = .error .badPadding := by
  constructor
  · rintro ⟨fault, refused⟩
    cases whole : isWhole ciphertext.length with
    | false => exact .inl (decrypt_eq_badLength_iff.mpr whole)
    | true =>
      rcases decrypt_of_isWhole whole key initial with ⟨message, decrypted⟩ | padding
      · rw [decrypted] at refused
        cases refused
      · exact .inr padding
  · rintro (refused | refused)
    · exact ⟨_, refused⟩
    · exact ⟨_, refused⟩

/-! ## The main result -/

/-- **Encrypting and decrypting are exact inverses.**  Under any key and initial block a ciphertext
decrypts to a message exactly if it is the encryption of that message, which has the next multiple
of sixteen above the length of the message for its length.  A ciphertext is refused for its length
exactly if that is zero or no multiple of sixteen.  It is refused for its padding exactly if there
is no number from one to sixteen such that the last block behind it ends in that number of bytes
that all hold the number.  It is refused for nothing else. -/
theorem decryption_exact (ciphertext key initial : List UInt8) :
    let length := ciphertext.length
    let last := (lastOpened ciphertext key initial).bytes
    let padded := ∃ count, 1 ≤ count ∧ count ≤ 16 ∧
      last.drop (16 - count) = List.replicate count (UInt8.ofNat count)
    (∀ message, decrypt ciphertext key initial = .ok message ↔
        ciphertext = encrypt message key initial) ∧
      (∀ message, (encrypt message key initial).length = 16 * (message.length / 16 + 1)) ∧
      (decrypt ciphertext key initial = .error (.badLength length) ↔
        length = 0 ∨ length % 16 ≠ 0) ∧
      (decrypt ciphertext key initial = .error .badPadding ↔
        ¬ (length = 0 ∨ length % 16 ≠ 0) ∧ ¬ padded) ∧
      ((∃ fault, decrypt ciphertext key initial = .error fault) ↔
        (length = 0 ∨ length % 16 ≠ 0) ∨ ¬ padded) := by
  intro length last padded
  have partly : isWhole length = false ↔ length = 0 ∨ length % 16 ≠ 0 := by
    rw [← Bool.not_eq_true, isWhole_iff]
    omega
  have whole : isWhole length = true ↔ ¬ (length = 0 ∨ length % 16 ≠ 0) := by
    rw [← partly, Bool.not_eq_false]
  have ends : IsPadded last ↔ padded := by
    refine exists_congr fun count => and_congr_right fun _ => and_congr_right fun high => ?_
    rw [List.suffix_iff_eq_drop, List.length_replicate, Block.length_bytes]
    exact eq_comm
  have forLength : decrypt ciphertext key initial = .error (.badLength length) ↔
      length = 0 ∨ length % 16 ≠ 0 := decrypt_eq_badLength_iff.trans partly
  have forPadding : decrypt ciphertext key initial = .error .badPadding ↔
      ¬ (length = 0 ∨ length % 16 ≠ 0) ∧ ¬ padded := by
    rw [decrypt_eq_badPadding_iff, whole, ends]
  refine ⟨fun message => decrypt_eq_ok_iff, fun message => length_encrypt message key initial,
    forLength, forPadding, ?_⟩
  rw [exists_decrypt_error_iff, forLength, forPadding]
  constructor
  · rintro (uneven | ⟨-, unpadded⟩)
    · exact .inl uneven
    · exact .inr unpadded
  · intro refused
    by_cases uneven : length = 0 ∨ length % 16 ≠ 0
    · exact .inl uneven
    · exact .inr ⟨uneven, refused.resolve_left uneven⟩

end SealedCredentials.Cipher
