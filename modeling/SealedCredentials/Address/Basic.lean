import SealedCredentials.Address.Route

/-!
# Addresses

An address has a scheme, perhaps an authority, a path, and perhaps a query and a fragment.
Its parts are kept in the form in which they are written, so that `text` only puts them
together.
-/

set_option autoImplicit false

namespace SealedCredentials.Address

/-- Who answers at an address: the host, its port unless it is the scheme's own, and the
credentials, empty if there are none. -/
structure Authority where
  user : String
  password : String
  host : Host
  port : Option Nat
  deriving DecidableEq, Repr

namespace Authority

/-- An authority without credentials and port. -/
def ofHost (host : Host) : Authority := ⟨"", "", host, none⟩

/-- Whether there are credentials. -/
def hasCredentials (authority : Authority) : Bool :=
  !authority.user.isEmpty || !authority.password.isEmpty

/-- An authority as it is written. -/
def text (authority : Authority) : String :=
  authority.user ++
    (if authority.password.isEmpty then "" else ":" ++ authority.password) ++
    (if authority.hasCredentials then "@" else "") ++ authority.host.text ++
    match authority.port with
    | some port => ":" ++ Arithmetic.Decimal.ofNat port
    | none => ""

end Authority

/-- Where an address leads. -/
inductive Route where
  /-- A path without segments, from which nothing can be relative. -/
  | rigid (text : String)
  | segmented (segments : List String)
  deriving DecidableEq, Repr

namespace Route

/-- A path as it is written. -/
def text : Route → String
  | .rigid text => text
  | .segmented segments => String.join (segments.map fun segment => "/" ++ segment)

/-- The segments of a path. -/
def segments : Route → List String
  | .rigid _ => []
  | .segmented segments => segments

end Route

end Address

/-- An address. -/
structure Address where
  scheme : String
  authority : Option Address.Authority
  route : Address.Route
  query : Option String
  fragment : Option String
  deriving DecidableEq, Repr

namespace Address

/-- What stands between the scheme and the path.  Without an authority, a path that begins
with an empty segment gets a dot in front, or it would be taken for an authority. -/
def authorityText (address : Address) : String :=
  match address.authority, address.route with
  | some authority, _ => "//" ++ authority.text
  | none, .segmented ("" :: _ :: _) => "/."
  | none, _ => ""

/-- An address as it is written. -/
def text (address : Address) : String :=
  address.scheme ++ ":" ++ address.authorityText ++ address.route.text ++
    (match address.query with
      | some query => "?" ++ query
      | none => "") ++
    match address.fragment with
    | some fragment => "#" ++ fragment
    | none => ""

/-- The address without credentials. -/
def withoutCredentials (address : Address) : Address :=
  { address with
    authority := address.authority.map fun authority =>
      { authority with user := "", password := "" } }

end SealedCredentials.Address
