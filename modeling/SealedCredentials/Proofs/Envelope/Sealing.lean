import SealedCredentials.Envelope.Sealing
import SealedCredentials.Proofs.Cipher.Chained
import SealedCredentials.Proofs.Codec.Base64
import SealedCredentials.Proofs.Text.Utf8

/-!
# A sealed text opens

A container is read back from its bytes and from the form that travels.  The salt comes with
it, so whoever opens stretches the same keys, and decrypting under them gives the text's bytes
(`openText_sealText`).
-/

set_option autoImplicit false

namespace SealedCredentials.Envelope

namespace Container

theorem length_tag : tag.length = 8 := rfl

/-- A container is read back from its bytes. -/
theorem ofBytes_bytes (container : Container) : ofBytes container.bytes = .ok container := by
  obtain ⟨⟨salt, eight⟩, ciphertext⟩ := container
  have length : (tag ++ salt ++ ciphertext).length = 16 + ciphertext.length := by
    rw [List.length_append, List.length_append, length_tag, eight]
  have front : (tag ++ salt ++ ciphertext).take 8 = tag := by
    rw [List.append_assoc, List.take_left' length_tag]
  have middle : ((tag ++ salt ++ ciphertext).drop 8).take 8 = salt := by
    rw [List.append_assoc, List.drop_left' length_tag, List.take_left' eight]
  have back : (tag ++ salt ++ ciphertext).drop 16 = ciphertext :=
    List.drop_left' (by rw [List.length_append, length_tag, eight])
  simp only [ofBytes, bytes, front, middle, back, if_true]
  rw [dif_neg (by omega)]

/-- A container is read from its bytes and from no others. -/
theorem ofBytes_eq_ok_iff {raw : List UInt8} {container : Container} :
    ofBytes raw = .ok container ↔ raw = container.bytes := by
  constructor
  · intro read
    unfold ofBytes at read
    split at read
    · cases read
    · split at read
      · rename_i tagged
        cases read
        have front := List.take_append_drop 8 raw
        have middle := List.take_append_drop 8 (raw.drop 8)
        rw [List.drop_drop] at middle
        rw [bytes, ← tagged, List.append_assoc, middle, front]
      · cases read
  · rintro rfl
    exact ofBytes_bytes container

/-- **A container is read from its written form, blank characters around it left aside, and from
no other text.** -/
theorem parse_eq_ok_iff {written : String} {container : Container} :
    parse written = .ok container ↔ Text.trim written = container.wire := by
  rw [wire, ← Codec.Base64.decode_ofString_eq_ok_iff, parse]
  cases Codec.Base64.decode (Text.Utf8.ofString (Text.trim written)) with
  | error cause => simp only [reduceCtorEq]
  | ok raw => simp only [ofBytes_eq_ok_iff, Except.ok.injEq]

/-- A container is read back from the form that travels. -/
theorem parse_wire (container : Container) : parse container.wire = .ok container :=
  parse_eq_ok_iff.mpr (Codec.Base64.trim_text container.bytes)

/-- Bytes that are not those of a container are refused as a container. -/
theorem ofBytes_error {raw : List UInt8} {fault : Fault} (refused : ofBytes raw = .error fault) :
    ∃ cause, fault = .container cause := by
  unfold ofBytes at refused
  split at refused
  · exact ⟨_, (Except.error.inj refused).symm⟩
  · split at refused
    · cases refused
    · exact ⟨_, (Except.error.inj refused).symm⟩

/-- A text that is no written form is refused as a container. -/
theorem parse_error {written : String} {fault : Fault} (refused : parse written = .error fault) :
    ∃ cause, fault = .container cause := by
  unfold parse at refused
  cases decoded : Codec.Base64.decode (Text.Utf8.ofString (Text.trim written)) with
  | error cause =>
    rw [decoded] at refused
    exact ⟨_, (Except.error.inj refused).symm⟩
  | ok raw =>
    rw [decoded] at refused
    exact ofBytes_error refused

end Container

/-- **A sealed text opens under the same material.** -/
theorem openText_sealText (material : Material) (text : String) (salt : Salt) :
    openText material (sealText material text salt) = .ok text := by
  simp only [openText, sealText, Container.parse_wire]
  simp only [openContainer, Cipher.isWhole_length_encrypt, Bool.not_true, Bool.false_eq_true,
    if_false, Cipher.decrypt_encrypt, Text.Utf8.toString?_ofString]

end SealedCredentials.Envelope
