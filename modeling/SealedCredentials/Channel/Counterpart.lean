import SealedCredentials.Channel.Basic

/-!
# The honest counterpart

The other end of a channel when it plays by the rules: it has a key pair over the same
parameters, answers a request with its public value, and holds the key material that the
request leads to.
-/

set_option autoImplicit false

namespace SealedCredentials.Channel.Counterpart

open SealedCredentials.Agreement SealedCredentials.Envelope

/-- The key material that the counterpart derives from a request. -/
def material (pair : KeyPair) (request : Message.Request) : Except Fault Material :=
  match pair.shareText request.clientPublic with
  | .ok secret => .ok (.ofSecret secret)
  | .error fault => .error fault

/-- The counterpart's answer.  A public value that it cannot use is an error of its own. -/
def answer (pair : KeyPair) (request : Message.Request) :
    Except HandshakeFault Message.Reply :=
  match material pair request with
  | .ok _ => .ok (.accepted pair.publicText)
  | .error fault => .error (.malformed fault.message)

/-- A counterpart that answers every request at once. -/
def transport (pair : KeyPair) : Transport := fun _ request => ⟨some 0, answer pair request⟩

end SealedCredentials.Channel.Counterpart
