import SealedCredentials.Address.Reader

/-!
# Resolvers

Which address a text stands for is not decided here: it is up to another library, which reads
international host names as well, by tables of its own.  A `Resolver` is what that library
answers, for every text, and whatever is proved of a client is proved for every resolver.  The
resolver `plain` is the one to run with where hosts are in ASCII.
-/

set_option autoImplicit false

namespace SealedCredentials.Address

/-- What is asked about addresses: what a text stands for, and what it stands for relative to
an address. -/
structure Resolver where
  parse : String → Except Fault Address
  join : Address → String → Except Fault Address

/-- The resolver for hosts in ASCII.  It refuses every other host, and it takes a label that is
encoded as `xn--` for what it is without decoding it. -/
def Resolver.plain : Resolver := ⟨read none, fun base => read (some base)⟩

/-- A text that is no address, or no address relative to its base. -/
structure Unusable where
  text : String
  cause : Fault
  deriving DecidableEq, Repr

/-- The wording for a text that is no address. -/
def Unusable.message (unusable : Unusable) : String :=
  unusable.text ++ ": " ++ unusable.cause.message

/-- The address of a path on a server, or the text that failed. -/
def endpoint (base path : String) (resolver : Resolver := .plain) : Except Unusable Address :=
  match resolver.parse base with
  | .error cause => .error ⟨base, cause⟩
  | .ok address =>
    match resolver.join address path with
    | .error cause => .error ⟨path, cause⟩
    | .ok address => .ok address

end SealedCredentials.Address
