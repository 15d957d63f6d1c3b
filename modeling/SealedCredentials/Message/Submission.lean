import SealedCredentials.Json.Record

/-!
# Messages that carry credentials

The user name and the password travel as envelopes and never in the clear; the role of a new
account is not secret.
-/

set_option autoImplicit false

namespace SealedCredentials.Message

/-- A login: two envelopes. -/
structure Login where
  username : String
  password : String
  deriving DecidableEq, Repr

namespace Login

/-- The members of a login. -/
def shape : Json.Shape :=
  ⟨"LoginPayload", [⟨"username", .text, false⟩, ⟨"password", .text, false⟩]⟩

/-- A login as it is sent. -/
def write (login : Login) : String :=
  Json.Members.write [("username", .text login.username), ("password", .text login.password)]

/-- The login of a text. -/
def parse (text : String) : Except Json.Fault Login := do
  let gathered ← shape.parse text
  return ⟨gathered.text "username" "", gathered.text "password" ""⟩

end Login

/-- A registration: two envelopes and the role of the account. -/
structure Registration where
  username : String
  password : String
  role : String
  deriving DecidableEq, Repr

namespace Registration

/-- The members of a registration. -/
def shape : Json.Shape :=
  ⟨"RegisterPayload",
    [⟨"username", .text, false⟩, ⟨"password", .text, false⟩, ⟨"role", .text, false⟩]⟩

/-- A registration as it is sent. -/
def write (registration : Registration) : String :=
  Json.Members.write
    [("username", .text registration.username), ("password", .text registration.password),
      ("role", .text registration.role)]

/-- The registration of a text. -/
def parse (text : String) : Except Json.Fault Registration := do
  let gathered ← shape.parse text
  return ⟨gathered.text "username" "", gathered.text "password" "", gathered.text "role" ""⟩

end Registration

end SealedCredentials.Message
