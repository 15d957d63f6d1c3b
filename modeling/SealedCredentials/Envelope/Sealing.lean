import SealedCredentials.Envelope.Container
import SealedCredentials.Envelope.Stretch

/-!
# Sealed texts

A text is sealed under key material and a salt: the keys are stretched, the text's bytes are
encrypted, and the ciphertext travels with its salt.  Whoever holds the material can open the
result; nothing but the material, the text and the salt enters it.
-/

set_option autoImplicit false

namespace SealedCredentials.Envelope

/-- The envelope of a text. -/
def sealText (material : Material) (text : String) (salt : Salt) : String :=
  let keys := stretch material.bytes salt
  (Container.mk salt (Cipher.encrypt (Text.Utf8.ofString text) keys.key keys.initial)).wire

/-- The text behind a container. -/
def openContainer (material : Material) (container : Container) : Except Fault String :=
  if !Cipher.isWhole container.ciphertext.length then
    .error (.container (.badLength container.ciphertext.length))
  else
    let keys := stretch material.bytes container.salt
    match Cipher.decrypt container.ciphertext keys.key keys.initial with
    | .error cause => .error (.opening (.cipher cause))
    | .ok plain =>
      match Text.Utf8.toString? plain with
      | .ok text => .ok text
      | .error _ => .error (.opening .notUtf8)

/-- The text in an envelope. -/
def openText (material : Material) (wire : String) : Except Fault String :=
  match Container.parse wire with
  | .ok container => openContainer material container
  | .error fault => .error fault

end SealedCredentials.Envelope
