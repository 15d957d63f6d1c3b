import SealedCredentials.Json.Record

/-!
# Messages of the key exchange

The client sends its public value; the server answers with its own or with a refusal.  A
public value in the answer settles it, whatever else the answer says.  Without one the answer
must be an explicit failure, or it is malformed.
-/

set_option autoImplicit false

namespace SealedCredentials.Message

/-- Why the text of a message does not hold what it should. -/
inductive Fault where
  | json (cause : Json.Fault)
  | missingField (name : String)
  | invalidField (name reason : String)
  deriving DecidableEq, Repr

/-- The wording of a fault. -/
def Fault.message : Fault → String
  | .json cause => "Malformed JSON: " ++ cause.message
  | .missingField name => "Missing required field: " ++ name
  | .invalidField name reason => "Invalid field " ++ name ++ ": " ++ reason

/-- The value of a whole text. -/
def parseValue (text : String) : Except Fault Json.Value :=
  match Json.Value.parse text with
  | .ok value => .ok value
  | .error cause => .error (.json cause)

/-- The members of a text that must be an object. -/
def parseObject (text : String) : Except Fault (List (String × Json.Value)) := do
  match ← parseValue text with
  | .object members => return members
  | _ => throw (.invalidField "body" "expected a JSON object")

/-- A complaint about a member that should be a string. -/
def notText (name : String) (value : Json.Value) : Fault :=
  .invalidField name ("expected string, got " ++ value.kindName)

/-! ## The client's half -/

/-- The client's public value in decimal. -/
structure Request where
  clientPublic : String
  deriving DecidableEq, Repr

namespace Request

/-- The members of a request. -/
def shape : Json.Shape := ⟨"HandshakeRequest", [⟨"clientPublic", .text, false⟩]⟩

/-- A request as it is sent. -/
def write (request : Request) : String :=
  Json.Members.write [("clientPublic", .text request.clientPublic)]

/-- The request of a text. -/
def parse (text : String) : Except Json.Fault Request := do
  let gathered ← shape.parse text
  return ⟨gathered.text "clientPublic" ""⟩

end Request

/-! ## The server's half -/

/-- The server's answer. -/
inductive Reply where
  /-- The server's public value in decimal. -/
  | accepted (serverPublic : String)
  | rejected (reason : String)
  deriving DecidableEq, Repr

namespace Reply

/-- The answer that the members of an object amount to. -/
def ofMembers (members : List (String × Json.Value)) : Except Fault Reply :=
  match members.lookup "serverPublic" with
  | some (.text value) => .ok (.accepted value)
  | some other => .error (notText "serverPublic" other)
  | none =>
    match members.lookup "success" with
    | some (.bool false) =>
      match members.lookup "message" with
      | some (.text reason) => .ok (.rejected reason)
      | some .null => .ok (.rejected "")
      | none => .ok (.rejected "")
      | some other => .error (notText "message" other)
    | _ => .error (.missingField "serverPublic")

/-- The answer of a text. -/
def parse (text : String) : Except Fault Reply := do
  ofMembers (← parseObject text)

end Reply

end SealedCredentials.Message
