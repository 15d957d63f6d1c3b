import SealedCredentials.Address.Resolver
import SealedCredentials.Fault
import SealedCredentials.Http.Status
import SealedCredentials.Message.Handshake

/-!
# Requests and what comes back

A request posts a JSON text to an address.  What comes back is a response, a response whose
body breaks off, or nothing.  A key exchange reads its answer from the body whatever the
status says; the status only decides what an unreadable body means.
-/

set_option autoImplicit false

namespace SealedCredentials.Http

/-- A JSON text for an address. -/
structure Request where
  address : Address
  body : String
  deriving DecidableEq, Repr

/-- Whether a request can be sent at all: its scheme must be one of the web's. -/
def Request.isSendable (request : Request) : Bool :=
  request.address.scheme == "http" || request.address.scheme == "https"

/-- The address of a request as it is reported: credentials are left out. -/
def Request.shown (request : Request) : String := request.address.withoutCredentials.text

/-- The head of a response: the status, and the bytes of each cookie that it sets. -/
structure Head where
  status : Nat
  cookies : List (List UInt8)
  deriving DecidableEq, Repr

/-- A response. -/
structure Response where
  head : Head
  body : List UInt8
  deriving DecidableEq, Repr

/-- The body of a response as a text; what is not UTF-8 is replaced. -/
def Response.text (response : Response) : String :=
  String.ofList (Text.Utf8.decodeLossy response.body)

/-- What comes back for a request. -/
inductive Delivery where
  /-- Not even the head of a response. -/
  | missing
  /-- The head of a response whose body broke off. -/
  | broken (head : Head)
  | arrived (response : Response)
  deriving DecidableEq, Repr

/-- Why no response can be had. -/
inductive Fault where
  | unsendable (address : String)
  | missing (address : String)
  | broken
  deriving DecidableEq, Repr

/-- The wording of a fault. -/
def Fault.message : Fault → String
  | .unsendable address => "builder error for url (" ++ address ++ ")"
  | .missing address => "error sending request for url (" ++ address ++ ")"
  | .broken => "error decoding response body"

/-- The response to a request, if there is one. -/
def Delivery.response (delivery : Delivery) (request : Request) : Except Fault Response :=
  match delivery with
  | .missing => .error (.missing request.shown)
  | .broken _ => .error .broken
  | .arrived response => .ok response

/-- The answer to a key exchange that a response holds. -/
def Response.reply (response : Response) : Except HandshakeFault Message.Reply :=
  match Message.Reply.parse response.text with
  | .ok reply => .ok reply
  | .error fault =>
    if isSuccess response.head.status then .error (.malformed fault.message)
    else
      .error (.transport
        ("HTTP " ++ statusText response.head.status ++ " from key exchange endpoint"))

/-- The answer to a key exchange that comes back for its request. -/
def Delivery.reply (delivery : Delivery) (request : Request) :
    Except HandshakeFault Message.Reply :=
  match delivery.response request with
  | .ok response => response.reply
  | .error fault => .error (.transport fault.message)

/-- What comes back, and after how long; without a span it never comes. -/
structure Round where
  delay : Option Nat
  delivery : Delivery
  deriving DecidableEq, Repr

/-- What comes back within a limit: after it the request is given up. -/
def Round.within (round : Round) (limit : Nat) : Nat × Delivery :=
  match round.delay with
  | some delay => if delay ≤ limit then (delay, round.delivery) else (limit, .missing)
  | none => (limit, .missing)

/-- The network, as what it brings back for the successive requests of a client: those of key
exchanges and those that carry credentials. -/
structure Wire where
  exchange : Nat → Request → Round
  submit : Nat → Request → Round

/-- The network where nobody answers. -/
def Wire.unreachable : Wire where
  exchange _ _ := ⟨some 0, .missing⟩
  submit _ _ := ⟨some 0, .missing⟩

end SealedCredentials.Http
