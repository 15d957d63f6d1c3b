import SealedCredentials.Proofs.Envelope.Opening

/-!
# What an envelope shows of its text

An envelope travels with its tag and its salt in the open, and it is as long as its ciphertext makes
it.  So envelopes under one salt whose ciphertexts are equally long differ only in the symbols that
hold bits of the ciphertext (`Container.agreeBut_wire`).  A ciphertext is as long as the number of
whole blocks that the text fills, and one block more; hence two texts have envelopes of the same
length exactly if they fill the same number of whole blocks (`length_sealText_eq_iff`).
-/

set_option autoImplicit false

namespace SealedCredentials

/-! ## Lists that agree outside of some places -/

/-- Lists of the same length that agree in all places but some. -/
structure AgreeBut {α : Type} (places : Nat → Prop) (list other : List α) : Prop where
  length_eq : list.length = other.length
  same : ∀ place, ¬places place → list[place]? = other[place]?

namespace AgreeBut

variable {α : Type} {places later : Nat → Prop} {list other rest others : List α}

theorem refl (places : Nat → Prop) (list : List α) : AgreeBut places list list where
  length_eq := rfl
  same := fun _ _ => rfl

theorem mono (agree : AgreeBut places list other) (more : ∀ place, places place → later place) :
    AgreeBut later list other where
  length_eq := agree.length_eq
  same := fun place kept => agree.same place fun changed => kept (more place changed)

/-- The places of a second list are counted from the end of the first one. -/
theorem append (front : AgreeBut places list other) (back : AgreeBut later rest others) :
    AgreeBut (fun place => places place ∨ list.length ≤ place ∧ later (place - list.length))
      (list ++ rest) (other ++ others) where
  length_eq := by rw [List.length_append, List.length_append, front.length_eq, back.length_eq]
  same := by
    intro place kept
    rcases Nat.lt_or_ge place list.length with early | late
    · rw [List.getElem?_append_left early, List.getElem?_append_left (front.length_eq ▸ early)]
      exact front.same place fun changed => kept (.inl changed)
    · rw [List.getElem?_append_right late, List.getElem?_append_right (front.length_eq ▸ late),
        ← front.length_eq]
      exact back.same _ fun changed => kept (.inr ⟨late, changed⟩)

end AgreeBut

namespace Envelope

/-! ## Containers -/

namespace Container

variable {container other : Container}

theorem length_bytes (container : Container) :
    container.bytes.length = 16 + container.ciphertext.length := by
  rw [bytes, List.length_append, List.length_append, length_tag, container.salt.length_bytes]

/-- A symbol of the written form holds bits of the ciphertext: it reaches beyond the sixteen bytes
of tag and salt, and it begins before the end.  Six bits make a symbol, so one symbol holds bits of
both salt and ciphertext. -/
def Carries (container : Container) (place : Nat) : Prop :=
  8 * 16 < 6 * (place + 1) ∧ 6 * place < 8 * container.bytes.length

/-- The tag and the salt make the first sixteen bytes. -/
theorem getElem?_bytes (salted : container.salt = other.salt) {index : Nat} (early : index < 16) :
    container.bytes[index]? = other.bytes[index]? := by
  have front (each : Container) : index < (tag ++ each.salt.bytes).length := by
    rw [List.length_append, length_tag, each.salt.length_bytes]
    exact early
  rw [bytes, List.getElem?_append_left (front container), salted, bytes,
    List.getElem?_append_left (front other)]

/-- **Containers of one salt and equally long ciphertexts differ where they hold the ciphertext, and
nowhere else.** -/
theorem agreeBut_wire (salted : container.salt = other.salt)
    (even : container.ciphertext.length = other.ciphertext.length) :
    AgreeBut container.Carries (Text.Utf8.ofString container.wire)
      (Text.Utf8.ofString other.wire) := by
  have whole : container.bytes.length = other.bytes.length := by
    rw [length_bytes, length_bytes, even]
  rw [wire, wire, Codec.Base64.ofString_text, Codec.Base64.ofString_text]
  refine ⟨?_, ?_⟩
  · rw [Codec.Base64.length_encode, Codec.Base64.length_encode, whole]
  · intro place kept
    apply Codec.Base64.getElem?_encode_congr whole
    intro index since till
    rcases Nat.lt_or_ge index 16 with early | late
    · exact getElem?_bytes salted early
    -- a symbol that reaches the ciphertext without holding any of it is padding
    · have beyond : container.bytes.length ≤ index := by
        rw [Carries] at kept
        omega
      rw [List.getElem?_eq_none beyond, List.getElem?_eq_none (whole ▸ beyond)]

end Container

/-! ## Sealed texts -/

variable (material : Material) (salt : Salt)

/-- How many whole blocks the bytes of a text fill. -/
def wholeBlocks (text : String) : Nat := (Text.Utf8.ofString text).length / 16

/-- The container in which a text travels. -/
def Container.ofText (text : String) : Container :=
  Container.encrypted material salt (Text.Utf8.ofString text)

/-- Padding fills up the last block, or adds one. -/
theorem length_ciphertext_ofText (text : String) :
    (Container.ofText material salt text).ciphertext.length = 16 * (wholeBlocks text + 1) :=
  Cipher.length_encrypt _ _ _

theorem length_sealText (text : String) :
    (sealText material text salt).length = (16 * wholeBlocks text + 34) / 3 * 4 := by
  have bytes : (Container.ofText material salt text).bytes.length =
      16 + 16 * (wholeBlocks text + 1) := by
    rw [Container.length_bytes, length_ciphertext_ofText]
  have same : sealText material text salt =
      Codec.Base64.text (Container.ofText material salt text).bytes := rfl
  rw [same, Codec.Base64.text, String.length_ofList, List.length_map, Codec.Base64.length_encode,
    bytes]
  omega

/-- **Envelopes are equally long exactly if their texts fill the same number of whole blocks**,
whatever they are sealed with. -/
theorem length_sealText_eq_iff (others : Material) (drawn : Salt) (text other : String) :
    (sealText material text salt).length = (sealText others other drawn).length ↔
      wholeBlocks text = wholeBlocks other := by
  rw [length_sealText, length_sealText]
  omega

/-- **Texts that fill the same number of whole blocks have envelopes that differ where they hold the
ciphertext, and nowhere else.** -/
theorem agreeBut_ofText {salt drawn : Salt} (salted : salt = drawn) {text other : String}
    (even : wholeBlocks text = wholeBlocks other) :
    AgreeBut (Container.ofText material salt text).Carries
      (Text.Utf8.ofString (Container.ofText material salt text).wire)
      (Text.Utf8.ofString (Container.ofText material drawn other).wire) := by
  refine Container.agreeBut_wire salted ?_
  rw [length_ciphertext_ofText, length_ciphertext_ofText, even]

end Envelope

end SealedCredentials
