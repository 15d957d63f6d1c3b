import SealedCredentials.Http.Delivery
import SealedCredentials.Message.StatusReport

/-!
# Outcomes of submissions

Three things are read from the response to a login or a registration, each by itself: whether
the status means success, the report in the body if it is one, and the token among the cookies
if it is there.
-/

set_option autoImplicit false

namespace SealedCredentials.Http

/-- What a submission came to. -/
structure Outcome where
  status : Nat
  success : Bool
  report : Option Message.StatusReport
  token : Option String
  deriving DecidableEq, Repr

/-- The cookie that carries the token. -/
def tokenCookie : String := "authToken"

/-- The text of a header value, if all of it can be read: printable ASCII and tabs. -/
def headerText (value : List UInt8) : Option (List Char) :=
  if value.all fun byte => (0x20 ≤ byte && byte < 0x7F) || byte == 0x09 then
    some (value.map fun byte => Char.ofNat byte.toNat)
  else none

/-- The token in the text of a cookie: the first part of it, before any semicolon, names the
cookie and gives its value after the first equals sign. -/
def tokenOf (cookie : List Char) : Option String :=
  let pair := cookie.takeWhile (· != ';')
  let name := pair.takeWhile (· != '=')
  match pair.drop name.length with
  | _ :: value =>
    if Text.trimmed name = tokenCookie.toList then some (String.ofList (Text.trimmed value))
    else none
  | [] => none

/-- The token of the first cookie that carries one. -/
def Head.token (head : Head) : Option String :=
  head.cookies.findSome? fun value => (headerText value).bind tokenOf

/-- What a response says about a submission. -/
def Response.outcome (response : Response) : Outcome where
  status := response.head.status
  success := isSuccess response.head.status
  report := (Message.StatusReport.parse response.text).toOption
  token := response.head.token

/-- An outcome in one line: what the server reports, or the bare status. -/
def Outcome.message (outcome : Outcome) : String :=
  match outcome.report with
  | some report =>
    report.message ++ " (code " ++ Arithmetic.Decimal.ofNat report.code.toNat ++ ")"
  | none => "HTTP " ++ Arithmetic.Decimal.ofNat outcome.status

end SealedCredentials.Http
