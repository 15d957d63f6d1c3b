import SealedCredentials.Envelope.Material

/-!
# Containers

A container is a tag of eight bytes, a salt of eight, and a ciphertext.  It travels in
base64.  Reading takes exactly the written forms, apart from blank characters around them.
-/

set_option autoImplicit false

namespace SealedCredentials.Envelope

/-- The bytes every container begins with. -/
def tag : List UInt8 := [0x53, 0x61, 0x6C, 0x74, 0x65, 0x64, 0x5F, 0x5F]

/-- A salt and a ciphertext. -/
structure Container where
  salt : Salt
  ciphertext : List UInt8
  deriving DecidableEq, Repr

namespace Container

/-- The bytes of a container. -/
def bytes (container : Container) : List UInt8 :=
  tag ++ container.salt.bytes ++ container.ciphertext

/-- The form of a container that travels. -/
def wire (container : Container) : String := Codec.Base64.text container.bytes

/-- The container of a byte list. -/
def ofBytes (raw : List UInt8) : Except Fault Container :=
  if long : raw.length < 16 then .error (.container (.shortHeader raw.length))
  else if raw.take 8 = tag then
    .ok ⟨⟨(raw.drop 8).take 8, by simp only [List.length_take, List.length_drop]; omega⟩,
      raw.drop 16⟩
  else .error (.container .missingTag)

/-- The container of a form that travels. -/
def parse (text : String) : Except Fault Container :=
  match Codec.Base64.decode (Text.Utf8.ofString (Text.trim text)) with
  | .ok raw => ofBytes raw
  | .error cause => .error (.container (.badBase64 cause))

end Container

end SealedCredentials.Envelope
