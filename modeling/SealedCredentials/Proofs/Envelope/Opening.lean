import SealedCredentials.Proofs.Envelope.Sealing

/-!
# What opens was sealed

Opening has no slack.  A text opens exactly if, without the blank characters around it, it is what
sealing makes of the result under some salt (`openText_eq_ok_iff`): base64 has one form for each
list of bytes, padding is taken off only as it is put on, and bytes that spell a text are the bytes
of that text.

What does not open fails for one of two reasons, told apart by the shape of the text alone
(`Shaped`).  A text that is no written form of tag, salt and whole blocks is refused as a
container, before any key is used.  Of a text that is one, the padding may be wrong, or the bytes
behind it may spell no text; its length is never found wrong a second time.
-/

set_option autoImplicit false

namespace SealedCredentials.Envelope

/-- The written form of the tag, a salt, and one or more whole blocks. -/
def Shaped (written : String) : Prop :=
  ∃ (salt : Salt) (ciphertext : List UInt8),
    (0 < ciphertext.length ∧ ciphertext.length % 16 = 0) ∧
      written = Codec.Base64.text (tag ++ salt.bytes ++ ciphertext)

/-- The container of encrypted bytes, be they those of a text or not. -/
def Container.encrypted (material : Material) (salt : Salt) (plain : List UInt8) : Container :=
  let keys := stretch material.bytes salt
  ⟨salt, Cipher.encrypt plain keys.key keys.initial⟩

/-- Sealing a text is encrypting its bytes. -/
theorem sealText_eq_wire (material : Material) (text : String) (salt : Salt) :
    sealText material text salt =
      (Container.encrypted material salt (Text.Utf8.ofString text)).wire := rfl

variable {material : Material} {written text : String} {container : Container}

/-! ## Opening a container -/

/-- A container opens to a text exactly if its ciphertext is what sealing the text under its salt
makes. -/
theorem openContainer_eq_ok_iff :
    openContainer material container = .ok text ↔
      container.wire = sealText material text container.salt := by
  constructor
  · intro opened
    unfold openContainer at opened
    split at opened
    · cases opened
    · cases decrypted : Cipher.decrypt container.ciphertext
          (stretch material.bytes container.salt).key
          (stretch material.bytes container.salt).initial with
      | error cause =>
        simp only [decrypted] at opened
        cases opened
      | ok plain =>
        simp only [decrypted] at opened
        cases read : Text.Utf8.toString? plain with
        | error fault =>
          simp only [read] at opened
          cases opened
        | ok spelled =>
          simp only [read] at opened
          cases opened
          rw [sealText, Text.Utf8.ofString_of_toString? read, Cipher.encrypt_of_decrypt decrypted]
  · intro same
    have read := Container.parse_wire container
    have opens := openText_sealText material text container.salt
    rwa [← same, openText, read] at opens

/-- A ciphertext that is not made of whole blocks is refused before it is decrypted. -/
theorem openContainer_of_not_isWhole
    (partly : Cipher.isWhole container.ciphertext.length = false) :
    openContainer material container =
      .error (.container (.badLength container.ciphertext.length)) := by
  rw [openContainer, partly]
  rfl

/-- Whole blocks open, or fail on their padding, or on what they spell. -/
theorem openContainer_of_isWhole (whole : Cipher.isWhole container.ciphertext.length = true) :
    (∃ text, openContainer material container = .ok text) ∨
      openContainer material container = .error (.opening (.cipher .badPadding)) ∨
      openContainer material container = .error (.opening .notUtf8) := by
  simp only [openContainer, whole, Bool.not_true, Bool.false_eq_true, if_false]
  rcases Cipher.decrypt_of_isWhole whole (stretch material.bytes container.salt).key
      (stretch material.bytes container.salt).initial with ⟨plain, decrypted⟩ | refused
  · rw [decrypted]
    cases read : Text.Utf8.toString? plain with
    | ok text => exact .inl ⟨text, by simp only [read]⟩
    | error fault => exact .inr (.inr (by simp only [read]))
  · exact .inr (.inl (by rw [refused]))

/-! ## Opening a text -/

/-- The text of a container opens as the container does. -/
theorem openText_of_parse (read : Container.parse written = .ok container) :
    openText material written = openContainer material container := by
  rw [openText, read]

/-- **A text opens exactly if it is sealed so under some salt.** -/
theorem openText_eq_ok_iff :
    openText material written = .ok text ↔
      ∃ salt, Text.trim written = sealText material text salt := by
  constructor
  · intro opened
    cases read : Container.parse written with
    | error fault =>
      rw [openText, read] at opened
      cases opened
    | ok container =>
      rw [openText_of_parse read, openContainer_eq_ok_iff] at opened
      exact ⟨container.salt, (Container.parse_eq_ok_iff.mp read).trans opened⟩
  · rintro ⟨salt, same⟩
    rw [openText_of_parse (Container.parse_eq_ok_iff.mpr same), openContainer_eq_ok_iff]
    rfl

/-- A container has the shape of a sealed text if its ciphertext is made of whole blocks. -/
theorem shaped_wire_iff :
    Shaped container.wire ↔ Cipher.isWhole container.ciphertext.length = true := by
  rw [Cipher.isWhole_iff]
  constructor
  · rintro ⟨salt, ciphertext, whole, same⟩
    have first := Container.parse_wire container
    have second := Container.parse_wire ⟨salt, ciphertext⟩
    rw [show container.wire = (Container.mk salt ciphertext).wire from same, second] at first
    cases first
    exact whole
  · intro whole
    exact ⟨container.salt, container.ciphertext, whole, rfl⟩

/-- What has not the shape of a sealed text is refused as a container. -/
theorem openText_of_not_shaped (material : Material)
    (shapeless : ¬ Shaped (Text.trim written)) :
    ∃ cause, openText material written = .error (.container cause) := by
  cases read : Container.parse written with
  | error fault =>
    obtain ⟨cause, rfl⟩ := Container.parse_error read
    exact ⟨cause, by rw [openText, read]⟩
  | ok container =>
    rw [Container.parse_eq_ok_iff.mp read, shaped_wire_iff, Bool.not_eq_true] at shapeless
    exact ⟨_, (openText_of_parse read).trans (openContainer_of_not_isWhole shapeless)⟩

/-- What has the shape of a sealed text is read as a container of whole blocks. -/
theorem openText_of_shaped (material : Material) (shaped : Shaped (Text.trim written)) :
    (∃ text, openText material written = .ok text) ∨
      openText material written = .error (.opening (.cipher .badPadding)) ∨
      openText material written = .error (.opening .notUtf8) := by
  obtain ⟨salt, ciphertext, whole, same⟩ := shaped
  have read : Container.parse written = .ok ⟨salt, ciphertext⟩ :=
    Container.parse_eq_ok_iff.mpr same
  rw [openText_of_parse read]
  exact openContainer_of_isWhole (Cipher.isWhole_iff.mpr whole)

/-- The salt can be read from a sealed text. -/
theorem parse_sealText (material : Material) (text : String) (salt : Salt) :
    ∃ ciphertext, Container.parse (sealText material text salt) = .ok ⟨salt, ciphertext⟩ := by
  rw [sealText_eq_wire]
  exact ⟨_, Container.parse_wire _⟩

/-- Bytes that spell no text can be encrypted, but the result does not open. -/
theorem openText_encrypted_of_unreadable (material : Material) (salt : Salt) {plain : List UInt8}
    {fault : Text.Utf8.Fault} (unreadable : Text.Utf8.toString? plain = .error fault) :
    openText material (Container.encrypted material salt plain).wire =
      .error (.opening .notUtf8) := by
  rw [openText_of_parse (Container.parse_wire _), openContainer]
  simp only [Container.encrypted, Cipher.isWhole_length_encrypt, Bool.not_true,
    Bool.false_eq_true, if_false, Cipher.decrypt_encrypt, unreadable]

/-- Sealed texts that are the same hold the same text under the same salt. -/
theorem sealText_inj {other : String} {salt drawn : Salt}
    (same : sealText material text salt = sealText material other drawn) :
    text = other ∧ salt = drawn := by
  have opened := openText_sealText material text salt
  obtain ⟨first, read⟩ := parse_sealText material text salt
  obtain ⟨second, readOther⟩ := parse_sealText material other drawn
  rw [same, openText_sealText] at opened
  rw [same, readOther] at read
  cases opened
  cases read
  exact ⟨rfl, rfl⟩

/-! ## The main result -/

/-- **Sealing and opening are exact inverses.**  A text opens to another one exactly if, trimmed,
it is that one sealed under some salt, which is then the salt that is read from it; so what is
sealed determines both.  A failure is one of the container exactly if the trimmed text has not the
shape of a sealed one, and one of the padding or of the spelling exactly if it has; a ciphertext of
wrong length never comes to be decrypted. -/
theorem opening_exact (material : Material) (written : String) :
    (∀ text, openText material written = .ok text ↔
        ∃ salt, Text.trim written = sealText material text salt) ∧
      (∀ text salt, Text.trim written = sealText material text salt →
        ∃ container, Container.parse written = .ok container ∧ container.salt = salt) ∧
      (∀ text other salt drawn, sealText material text salt = sealText material other drawn →
        text = other ∧ salt = drawn) ∧
      (∀ fault, openText material written = .error fault →
        ((∃ cause, fault = .container cause) ↔ ¬ Shaped (Text.trim written)) ∧
          ((fault = .opening (.cipher .badPadding) ∨ fault = .opening .notUtf8) ↔
            Shaped (Text.trim written))) ∧
      ∀ length, openText material written ≠ .error (.opening (.cipher (.badLength length))) := by
  have classified : ∀ fault, openText material written = .error fault →
      ((∃ cause, fault = .container cause) ∧ ¬ Shaped (Text.trim written)) ∨
        ((fault = .opening (.cipher .badPadding) ∨ fault = .opening .notUtf8) ∧
          Shaped (Text.trim written)) := by
    intro fault failed
    by_cases shaped : Shaped (Text.trim written)
    · rcases openText_of_shaped material shaped with ⟨text, opened⟩ | padding | spelling
      · rw [opened] at failed
        cases failed
      · rw [padding] at failed
        exact .inr ⟨.inl (Except.error.inj failed).symm, shaped⟩
      · rw [spelling] at failed
        exact .inr ⟨.inr (Except.error.inj failed).symm, shaped⟩
    · obtain ⟨cause, refused⟩ := openText_of_not_shaped material shaped
      rw [refused] at failed
      exact .inl ⟨⟨cause, (Except.error.inj failed).symm⟩, shaped⟩
  refine ⟨fun text => openText_eq_ok_iff, ?_, ?_, ?_, ?_⟩
  · intro text salt same
    exact ⟨_, Container.parse_eq_ok_iff.mpr same, rfl⟩
  · intro text other salt drawn same
    exact sealText_inj same
  · intro fault failed
    rcases classified fault failed with ⟨⟨cause, rfl⟩, shapeless⟩ | ⟨opening, shaped⟩
    · refine ⟨⟨fun _ => shapeless, fun _ => ⟨cause, rfl⟩⟩, ?_⟩
      simp only [reduceCtorEq, or_self, false_iff]
      exact shapeless
    · refine ⟨⟨?_, fun shapeless => absurd shaped shapeless⟩, fun _ => shaped, fun _ => opening⟩
      rintro ⟨cause, rfl⟩
      simp only [reduceCtorEq, or_self] at opening
  · intro length failed
    rcases classified _ failed with ⟨⟨cause, same⟩, -⟩ | ⟨same | same, -⟩
    · cases same
    · cases same
    · cases same

/-- A container without ciphertext is refused for its shape, and one around bytes that spell no
text for what they spell; the salt of a sealed word is read from it. -/
theorem opening_exact_of_three :
    let material : Material := ⟨List.replicate 32 0, rfl⟩
    let salt := Salt.ofRandom 1
    let garbled := (Container.encrypted material salt [0xFF]).wire
    (openText material "U2FsdGVkX18xMjM0NTY3OA==\n" = .error (.container (.badLength 0)) ∧
        ¬ Shaped (Text.trim "U2FsdGVkX18xMjM0NTY3OA==\n")) ∧
      (openText material garbled = .error (.opening .notUtf8) ∧ Shaped (Text.trim garbled)) ∧
      ∃ container, Container.parse (sealText material "secret" salt) = .ok container ∧
        container.salt = salt := by
  intro material salt garbled
  have header : Container.parse "U2FsdGVkX18xMjM0NTY3OA==\n" =
      .ok ⟨⟨[0x31, 0x32, 0x33, 0x34, 0x35, 0x36, 0x37, 0x38], rfl⟩, []⟩ :=
    Container.parse_eq_ok_iff.mpr (by decide +kernel)
  have empty : openText material "U2FsdGVkX18xMjM0NTY3OA==\n" =
      .error (.container (.badLength 0)) := by
    rw [openText_of_parse header]
    exact openContainer_of_not_isWhole rfl
  have stray : Text.Utf8.toString? [0xFF] = .error (.invalid 1 0) := by
    rw [Text.Utf8.toString?, Text.Utf8.decode,
      Text.Utf8.decodeFrom_of_next_error (List.cons_ne_nil _ _) rfl]
    rfl
  have unreadable : openText material garbled = .error (.opening .notUtf8) :=
    openText_encrypted_of_unreadable material salt stray
  obtain ⟨-, -, -, failures, -⟩ := opening_exact material "U2FsdGVkX18xMjM0NTY3OA==\n"
  obtain ⟨-, -, -, failuresGarbled, -⟩ := opening_exact material garbled
  obtain ⟨-, salted, -, -, -⟩ := opening_exact material (sealText material "secret" salt)
  exact ⟨⟨empty, (failures _ empty).1.mp ⟨_, rfl⟩⟩,
    ⟨unreadable, (failuresGarbled _ unreadable).2.mp (.inr rfl)⟩,
    salted "secret" salt (Codec.Base64.trim_text _)⟩

end SealedCredentials.Envelope
