import SealedCredentials.Cipher.Chained
import SealedCredentials.Proofs.Cipher.Block

/-!
# Decrypting undoes encrypting

A padded message is made of whole blocks, so cutting it into blocks and joining them loses
nothing.  Along a chain each deciphered block meets the same enciphered block before it, hence
unchaining undoes chaining as soon as one block is undone (`unchain_chain`).  The padding names
its own length, which is never zero and never more than what there is (`unpad_pad`).

The other way round, chaining undoes unchaining, and padding that can be taken off is the padding
that would be put on (`pad_of_unpad`).  So a ciphertext opens to a message exactly when it is the
encryption of that message (`decrypt_eq_ok_iff`).
-/

set_option autoImplicit false

namespace SealedCredentials.Cipher

/-! ## Blocks of a byte list -/

/-- The bytes of a block that was read from a long enough list. -/
theorem Block.bytes_ofBytes {bytes : List UInt8} (long : 16 ≤ bytes.length) :
    (Block.ofBytes bytes).bytes = bytes.take 16 := by
  have listed : (Block.ofBytes bytes).bytes = (List.range 16).map fun place => bytes.getD place 0 :=
    rfl
  rw [listed]
  refine List.ext_getElem (by simp only [List.length_map, List.length_range, List.length_take,
    Nat.min_eq_left long]) fun place left right => ?_
  have inside : place < bytes.length := by
    rw [List.length_take] at right
    omega
  rw [List.getElem_map, List.getElem_range, List.getElem_take, List.getD_eq_getElem?_getD,
    List.getElem?_eq_getElem inside, Option.getD_some]

theorem joined_nil : joined [] = [] := rfl

theorem joined_cons (block : Block) (list : List Block) :
    joined (block :: list) = block.bytes ++ joined list := rfl

/-- Joined blocks have sixteen bytes each. -/
theorem length_joined (list : List Block) : (joined list).length = 16 * list.length := by
  induction list with
  | nil => rfl
  | cons block later ih =>
    rw [joined_cons, List.length_append, Block.length_bytes, ih, List.length_cons]
    omega

/-- Joined blocks are cut into the same blocks. -/
theorem blocks_joined (list : List Block) : blocks (joined list) = list := by
  induction list with
  | nil => rw [joined_nil, blocks, if_pos (by decide)]
  | cons block later ih =>
    have front : Block.ofBytes (block.bytes ++ joined later) = block := rfl
    have rest : (block.bytes ++ joined later).drop 16 = joined later := rfl
    rw [joined_cons, blocks, if_neg (by rw [List.length_append, Block.length_bytes]; omega), front,
      rest, ih]

/-- A list of whole blocks is joined again from its blocks. -/
theorem joined_blocks {bytes : List UInt8} (whole : bytes.length % 16 = 0) :
    joined (blocks bytes) = bytes := by
  induction bytes using (measure List.length).wf.induction with
  | _ bytes ih =>
    by_cases short : bytes.length < 16
    · have none : bytes = [] := List.length_eq_zero_iff.mp (by omega)
      rw [blocks, if_pos short, none]
      rfl
    · have shorter : (bytes.drop 16).length < bytes.length := by
        rw [List.length_drop]
        omega
      have still : (bytes.drop 16).length % 16 = 0 := by
        rw [List.length_drop]
        omega
      rw [blocks, if_neg short, joined_cons, Block.bytes_ofBytes (by omega), ih _ shorter still,
        List.take_append_drop]

/-! ## Chaining -/

/-- Unchaining undoes chaining if one block is undone. -/
theorem unchain_chain {forward backward : Block → Block}
    (undone : ∀ block, backward (forward block) = block) (previous : Block) (list : List Block) :
    unchain backward previous (chain forward previous list) = list := by
  induction list generalizing previous with
  | nil => rfl
  | cons block later ih =>
    change (backward (forward (block.add previous))).add previous ::
      unchain backward _ (chain forward _ later) = _
    rw [undone, Block.add_add_cancel, ih]

/-- Chaining undoes unchaining if one block is done again. -/
theorem chain_unchain {forward backward : Block → Block}
    (redone : ∀ block, forward (backward block) = block) (previous : Block) (list : List Block) :
    chain forward previous (unchain backward previous list) = list := by
  induction list generalizing previous with
  | nil => rfl
  | cons block later ih =>
    change forward (((backward block).add previous).add previous) ::
      chain forward (forward (((backward block).add previous).add previous))
        (unchain backward block later) = _
    rw [Block.add_add_cancel, redone, ih]

/-- A chain has as many blocks as what it was made of. -/
theorem length_chain (forward : Block → Block) (previous : Block) (list : List Block) :
    (chain forward previous list).length = list.length := by
  induction list generalizing previous with
  | nil => rfl
  | cons block later ih =>
    change (chain forward _ later).length + 1 = later.length + 1
    rw [ih]

/-! ## Padding -/

/-- A padded message is made of one whole block or more. -/
theorem length_pad (message : List UInt8) :
    (pad message).length = 16 * (message.length / 16 + 1) := by
  simp only [pad, List.length_append, List.length_replicate]
  omega

/-- **The padding is told from the message.** -/
theorem unpad_pad (message : List UInt8) : unpad (pad message) = some message := by
  obtain ⟨count, counted⟩ : ∃ count, 16 - message.length % 16 = count := ⟨_, rfl⟩
  have bounds : 0 < count ∧ count ≤ 16 := by omega
  have last : (message ++ List.replicate count (UInt8.ofNat count)).getLast? =
      some (UInt8.ofNat count) := by
    rw [List.getLast?_append, List.getLast?_replicate, if_neg (by omega), Option.some_or]
  have value : (UInt8.ofNat count).toNat = count :=
    UInt8.toNat_ofNat_of_lt' (Nat.lt_of_le_of_lt bounds.2 (by decide))
  have length : (message ++ List.replicate count (UInt8.ofNat count)).length - count =
      message.length := by
    rw [List.length_append, List.length_replicate, Nat.add_sub_cancel]
  have enough : ¬ (message ++ List.replicate count (UInt8.ofNat count)).length < count := by
    rw [List.length_append, List.length_replicate]
    omega
  have alike : (List.replicate count (UInt8.ofNat count)).all (· == UInt8.ofNat count) = true :=
    List.all_eq_true.mpr fun byte member => beq_iff_eq.mpr (List.eq_of_mem_replicate member)
  have inside : (decide (count = 0) || decide (16 < count)) = false := by
    rw [Bool.or_eq_false_iff, decide_eq_false_iff_not, decide_eq_false_iff_not]
    omega
  simp only [unpad, pad, counted, last, value, length, inside, enough, decide_false,
    Bool.or_false, Bool.false_eq_true, if_false, List.drop_left, alike, if_true, List.take_left]

/-- **Whole blocks whose padding can be taken off are what the message is padded to.** -/
theorem pad_of_unpad {padded message : List UInt8} (whole : padded.length % 16 = 0)
    (taken : unpad padded = some message) : pad message = padded := by
  unfold unpad at taken
  cases ends : padded.getLast? with
  | none =>
    rw [ends] at taken
    cases taken
  | some last =>
    rw [ends] at taken
    simp only [Bool.or_eq_true, decide_eq_true_eq] at taken
    split at taken
    · cases taken
    · rename_i bounds
      split at taken
      · rename_i alike
        have front : padded.take (padded.length - last.toNat) = message := Option.some.inj taken
        have length : message.length = padded.length - last.toNat := by
          rw [← front, List.length_take]
          omega
        have count : 16 - message.length % 16 = last.toNat := by omega
        have rest : padded.drop (padded.length - last.toNat) =
            List.replicate last.toNat last := by
          rw [List.eq_replicate_iff, List.length_drop]
          refine ⟨by omega, fun byte member => ?_⟩
          exact beq_iff_eq.mp (List.all_eq_true.mp alike byte member)
        rw [pad, count, UInt8.ofNat_toNat, ← rest, ← front, List.take_append_drop]
      · cases taken

/-! ## Messages -/

theorem isWhole_iff {length : Nat} : isWhole length = true ↔ 0 < length ∧ length % 16 = 0 := by
  rw [isWhole, Bool.and_eq_true, bne_iff_ne, beq_iff_eq, Nat.pos_iff_ne_zero]

/-- A ciphertext has the length of the padded message. -/
theorem length_encrypt (message key initial : List UInt8) :
    (encrypt message key initial).length = 16 * (message.length / 16 + 1) := by
  have padded := length_pad message
  have cut : 16 * (blocks (pad message)).length = (pad message).length := by
    rw [← length_joined, joined_blocks (by omega)]
  rw [encrypt, length_joined, length_chain, cut, padded]

theorem isWhole_length_encrypt (message key initial : List UInt8) :
    isWhole (encrypt message key initial).length = true := by
  rw [isWhole_iff, length_encrypt]
  omega

/-! ## Decrypting -/

/-- The bytes behind a ciphertext, padding included. -/
def opened (ciphertext key initial : List UInt8) : List UInt8 :=
  joined (unchain (decipher (roundKeys key)) (Block.ofBytes initial) (blocks ciphertext))

theorem length_opened_mod (ciphertext key initial : List UInt8) :
    (opened ciphertext key initial).length % 16 = 0 := by
  rw [opened, length_joined]
  omega

/-- The bytes behind an encryption are the padded message. -/
theorem opened_encrypt (message key initial : List UInt8) :
    opened (encrypt message key initial) key initial = pad message := by
  have whole : (pad message).length % 16 = 0 := by
    rw [length_pad]
    omega
  rw [opened, encrypt, blocks_joined, unchain_chain (decipher_encipher _), joined_blocks whole]

/-- A ciphertext that is not made of whole blocks is refused for its length. -/
theorem decrypt_of_not_isWhole {ciphertext : List UInt8}
    (partly : isWhole ciphertext.length = false) (key initial : List UInt8) :
    decrypt ciphertext key initial = .error (.badLength ciphertext.length) := by
  rw [decrypt, partly]
  rfl

/-- Whole blocks decrypt to what is left of the bytes behind them without their padding. -/
theorem decrypt_eq_elim {ciphertext : List UInt8} (whole : isWhole ciphertext.length = true)
    (key initial : List UInt8) :
    decrypt ciphertext key initial =
      (unpad (opened ciphertext key initial)).elim (.error .badPadding) .ok := by
  simp only [decrypt, opened, whole, Bool.not_true, Bool.false_eq_true, if_false]
  cases unpad (joined (unchain (decipher (roundKeys key)) (Block.ofBytes initial)
      (blocks ciphertext))) with
  | none => rfl
  | some message => rfl

/-- Whole blocks are refused for nothing but their padding. -/
theorem decrypt_of_isWhole {ciphertext : List UInt8} (whole : isWhole ciphertext.length = true)
    (key initial : List UInt8) :
    (∃ message, decrypt ciphertext key initial = .ok message) ∨
      decrypt ciphertext key initial = .error .badPadding := by
  rw [decrypt_eq_elim whole]
  cases unpad (opened ciphertext key initial) with
  | none => exact .inr rfl
  | some message => exact .inl ⟨message, rfl⟩

/-- **Decrypting undoes encrypting.** -/
theorem decrypt_encrypt (message key initial : List UInt8) :
    decrypt (encrypt message key initial) key initial = .ok message := by
  rw [decrypt_eq_elim (isWhole_length_encrypt message key initial), opened_encrypt, unpad_pad]
  rfl

/-- **Encrypting undoes decrypting**: what can be decrypted was encrypted. -/
theorem encrypt_of_decrypt {ciphertext key initial message : List UInt8}
    (decrypted : decrypt ciphertext key initial = .ok message) :
    encrypt message key initial = ciphertext := by
  cases whole : isWhole ciphertext.length with
  | false =>
    rw [decrypt_of_not_isWhole whole] at decrypted
    cases decrypted
  | true =>
    rw [decrypt_eq_elim whole] at decrypted
    cases taken : unpad (opened ciphertext key initial) with
    | none =>
      rw [taken] at decrypted
      cases decrypted
    | some found =>
      rw [taken] at decrypted
      cases decrypted
      have padded : pad message = opened ciphertext key initial :=
        pad_of_unpad (length_opened_mod ciphertext key initial) taken
      rw [encrypt, padded, opened, blocks_joined, chain_unchain (encipher_decipher _),
        joined_blocks (isWhole_iff.mp whole).2]

/-- Decrypting gives a message exactly when the message was encrypted so. -/
theorem decrypt_eq_ok_iff {ciphertext key initial message : List UInt8} :
    decrypt ciphertext key initial = .ok message ↔ ciphertext = encrypt message key initial := by
  constructor
  · intro decrypted
    exact (encrypt_of_decrypt decrypted).symm
  · rintro rfl
    exact decrypt_encrypt message key initial

end SealedCredentials.Cipher
