import SealedCredentials.Arithmetic.Decimal
import SealedCredentials.Cipher.Chained
import SealedCredentials.Codec.Base64
import SealedCredentials.Codec.Hex
import SealedCredentials.Span
import SealedCredentials.Text.Utf8

/-!
# Faults of the channel

What can go wrong from the agreement of a secret to the opening of an envelope, by cause.
The wording stands in one place, `Fault.message`, beside the causes.
-/

set_option autoImplicit false

namespace SealedCredentials

/-- An integer that cannot be had. -/
inductive IntegerFault where
  | decimal (cause : Arithmetic.Decimal.Fault)
  | hexadecimal (cause : Codec.Hex.Fault)
  /-- A draw between bounds that leave nothing between them. -/
  | emptyRange (low high : Nat)
  deriving DecidableEq, Repr

/-- The wording of a fault. -/
def IntegerFault.message : IntegerFault → String
  | .decimal cause => cause.message
  | .hexadecimal cause => cause.message
  | .emptyRange low high => "empty range [" ++ toString low ++ ", " ++ toString high ++ ")"

/-- Parameters of an agreement that are refused. -/
inductive ParameterFault where
  | smallModulus
  | generatorRange
  | exponentRange
  | unknownGroup (name : String)
  deriving DecidableEq, Repr

/-- The wording of a fault. -/
def ParameterFault.message : ParameterFault → String
  | .smallModulus => "modulus must be at least 5"
  | .generatorRange => "generator must lie in [2, p-2]"
  | .exponentRange => "private exponent must lie in [1, p-2]"
  | .unknownGroup name => "unknown group: " ++ name

/-- A container that cannot be read. -/
inductive ContainerFault where
  | badBase64 (cause : Codec.Base64.Fault)
  | shortHeader (length : Nat)
  | missingTag
  | badLength (length : Nat)
  deriving DecidableEq, Repr

/-- The wording of a fault. -/
def ContainerFault.message : ContainerFault → String
  | .badBase64 cause => "bad base64: " ++ cause.message
  | .shortHeader length => toString length ++ " bytes is shorter than the 16-byte header"
  | .missingTag => "missing Salted__ tag"
  | .badLength length => Cipher.lengthMessage length

/-- A ciphertext that cannot be opened. -/
inductive OpeningFault where
  | cipher (cause : Cipher.Fault)
  | notUtf8
  deriving DecidableEq, Repr

/-- The wording of a fault. -/
def OpeningFault.message : OpeningFault → String
  | .cipher cause => cause.message
  | .notUtf8 => "plaintext is not UTF-8"

/-- Why an attempt to exchange keys did not complete.  Everyone who waits for the same
attempt gets the same fault. -/
inductive HandshakeFault where
  | transport (text : String)
  | malformed (text : String)
  | rejected (reason : String)
  | peerValue
  | timedOut (limit : Nat)
  deriving DecidableEq, Repr

/-- The wording of a fault. -/
def HandshakeFault.message : HandshakeFault → String
  | .transport text => "Transport error: " ++ text
  | .malformed text => "Malformed handshake reply: " ++ text
  | .rejected reason => "Server rejected key exchange: " ++ reason
  | .peerValue => "Peer public value out of range"
  | .timedOut limit => "Handshake timed out after " ++ Span.text limit

/-- What can go wrong in the channel. -/
inductive Fault where
  | integer (cause : IntegerFault)
  | parameters (cause : ParameterFault)
  | peerValue
  | keyLength (expected actual : Nat)
  | container (cause : ContainerFault)
  | opening (cause : OpeningFault)
  | encoding (cause : Text.Utf8.Fault)
  | handshake (cause : HandshakeFault)
  deriving DecidableEq, Repr

/-- The wording of a fault. -/
def Fault.message : Fault → String
  | .integer cause => "Invalid integer: " ++ cause.message
  | .parameters cause => "Invalid domain parameters: " ++ cause.message
  | .peerValue => "Peer public value out of range"
  | .keyLength expected actual =>
    "Invalid key length: expected " ++ toString expected ++ ", got " ++ toString actual
  | .container cause => "Invalid envelope: " ++ cause.message
  | .opening cause => "Decryption failed: " ++ cause.message
  | .encoding cause => "Plaintext is not valid UTF-8: " ++ cause.message
  | .handshake cause => "Handshake failed: " ++ cause.message

/-- A fault and what lies behind it, each in its own wording. -/
def Fault.chain (fault : Fault) : List String :=
  fault.message ::
    match fault with
    | .encoding cause => [cause.message]
    | .handshake cause => [cause.message]
    | _ => []

/-- An integer read from its decimal text. -/
def readInteger (text : String) : Except Fault Nat :=
  match Arithmetic.Decimal.parse text with
  | .ok value => .ok value
  | .error cause => .error (.integer (.decimal cause))

/-- What a draw gives between `low` and `high`, the upper bound left out.  There must be
something between them. -/
def drawFrom (draw : Nat → Nat → Nat) (low high : Nat) : Except Fault Nat :=
  if low < high then .ok (draw low high) else .error (.integer (.emptyRange low high))

/-- The integer between `low` and `high`, the upper bound left out, that a random number
selects.  Every integer between the bounds is selected by some number. -/
def drawBetween (low high random : Nat) : Except Fault Nat :=
  drawFrom (fun low high => low + random % (high - low)) low high

end SealedCredentials
