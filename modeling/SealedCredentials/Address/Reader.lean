import SealedCredentials.Address.Basic

/-!
# Reading addresses

A text is an address of its own or, given a base, relative to it.  The reader knows hosts in
ASCII only; what a text with any other host stands for, it does not say.
-/

set_option autoImplicit false

namespace SealedCredentials.Address

/-! ## Parts of a text -/

/-- A text without the blanks and controls around it and the line breaks and tabs in it. -/
def cleaned (text : String) : List Char :=
  let isOuter (c : Char) : Bool := c ≤ ' '
  let inner := (((text.toList.dropWhile isOuter).reverse).dropWhile isOuter).reverse
  inner.filter fun c => c != '\t' && c != '\n' && c != '\r'

/-- A character that a scheme may hold after its first one. -/
def isSchemeChar (c : Char) : Bool :=
  c.isAlpha || c.isDigit || c == '+' || c == '-' || c == '.'

/-- The scheme before a colon, in lower case, and what follows the colon. -/
def splitScheme (text : List Char) : Option (String × List Char) :=
  let scheme := text.takeWhile isSchemeChar
  match scheme.head?, text.drop scheme.length with
  | some first, ':' :: rest =>
    if first.isAlpha then some (String.ofList (scheme.map Char.toLower), rest) else none
  | _, _ => none

/-- A character after which a path has ended. -/
def endsPath (c : Char) : Bool := c == '?' || c == '#'

/-- The fragment at the head of a text. -/
def readFragment : List Char → Option String
  | '#' :: rest => some (String.ofList (encode .fragment rest))
  | _ => none

/-- The address with the query and the fragment that follow its path. -/
def withTail (address : Address) (tail : List Char) : Address :=
  match tail with
  | '?' :: rest =>
    let query := rest.takeWhile (· != '#')
    let part := Part.query (Family.ofScheme address.scheme != .other)
    { address with
      query := some (String.ofList (encode part query))
      fragment := readFragment (rest.drop query.length) }
  | _ => { address with query := none, fragment := readFragment tail }

/-- The address whose path goes on from `done`, and whether a drive was named on the way. -/
def onwards (scheme : String) (authority : Option Authority) (done : List String)
    (text : List Char) : Address × Bool :=
  let path := text.takeWhile (!endsPath ·)
  let trail := follow (Family.ofScheme scheme) done path
  let address : Address := ⟨scheme, authority, .segmented trail.segments, none, none⟩
  (address.withTail (text.drop path.length), trail.drive)

/-! ## Authorities -/

/-- A character after which an authority has ended. -/
def Family.endsAuthority (family : Family) (c : Char) : Bool :=
  family.separates c || endsPath c

/-- The credentials before the last at sign of an authority, and what follows them. -/
def splitCredentials (family : Family) (text : List Char) :
    Except Fault (Option (String × String) × List Char) :=
  let authority := text.takeWhile (!family.endsAuthority ·)
  if authority.contains '@' then
    let host := (authority.reverse.takeWhile (· != '@')).reverse
    let written := authority.take (authority.length - host.length - 1)
    let rest := host ++ text.drop authority.length
    if written.isEmpty && host.isEmpty && !rest.isEmpty then .error .emptyHost
    else
      let user := written.takeWhile (· != ':')
      let password := written.drop (user.length + 1)
      .ok (some (String.ofList (encode .credentials user),
        String.ofList (encode .credentials password)), rest)
  else .ok (none, text)

/-- The host at the head of a text: it ends at a colon outside brackets. -/
def splitHost (family : Family) : Bool → List Char → List Char × List Char
  | _, [] => ([], [])
  | bracketed, c :: rest =>
    if (c == ':' && !bracketed) || family.endsAuthority c then ([], c :: rest)
    else
      let bracketed := if c == '[' then true else if c == ']' then false else bracketed
      let (host, rest) := splitHost family bracketed rest
      (c :: host, rest)

/-- The port at the head of a text, unless it is the scheme's own or missing. -/
def splitPort (scheme : String) (text : List Char) : Except Fault (Option Nat × List Char) :=
  match text with
  | ':' :: rest =>
    let digits := rest.takeWhile Arithmetic.Decimal.isDigit
    let rest := rest.drop digits.length
    let port := Arithmetic.Decimal.value digits
    if 65535 < port || rest.head?.any (fun c => !isSlash c && !endsPath c) then .error .badPort
    else if digits.isEmpty || defaultPort? scheme = some port then .ok (none, rest)
    else .ok (some port, rest)
  | _ => .ok (none, text)

/-- The address after a scheme and two slashes. -/
def afterSlashes (scheme : String) (text : List Char) : Except Fault Address := do
  let family := Family.ofScheme scheme
  let (credentials, text) ← splitCredentials family text
  let (written, text) := splitHost family false text
  let host ← if family = .other then readUnnamed written else readNamed written
  if host.isEmpty && (family != .other || text.head? == some ':') then
    throw .emptyHost
  let (port, text) ← splitPort scheme text
  let (user, password) := credentials.getD ("", "")
  let authority : Authority := ⟨user, password, host, port⟩
  if host.isEmpty && authority.hasCredentials then
    throw .emptyHost
  let onRoot (text : List Char) : Address := (onwards scheme (some authority) [] text).1
  match text with
  | c :: rest =>
    if family.separates c then return onRoot rest
    else if family = .other && endsPath c then
      return Address.withTail ⟨scheme, some authority, .segmented [], none, none⟩ text
    else return onRoot text
  | [] =>
    if family = .other then
      return ⟨scheme, some authority, .segmented [], none, none⟩
    else return onRoot []

/-! ## Relative texts -/

/-- A text relative to a base whose scheme is none of files. -/
def resolve (base : Address) (text : List Char) : Except Fault Address :=
  match text with
  | [] => .ok { base with fragment := none }
  | '?' :: _ => .ok (base.withTail text)
  | '#' :: _ => .ok { base with fragment := readFragment text }
  | '/' :: '/' :: rest => afterSlashes base.scheme rest
  | c :: rest =>
    if isSlash c then
      if rest.head?.any isSlash then afterSlashes base.scheme (rest.dropWhile isSlash)
      else .ok (onwards base.scheme base.authority [] rest).1
    else .ok (onwards base.scheme base.authority base.route.segments.dropLast text).1

/-- An authority that is empty, as that of most files. -/
def nowhere : Authority := .ofHost (.name "")

/-- The address of a file after the scheme and two slashes. -/
def fileAfterSlashes (text : List Char) : Except Fault Address := do
  let written := text.takeWhile fun c => !isSlash c && !endsPath c
  if isDrive written then
    return (onwards "file" (some nowhere) [] text).1
  let text := text.drop written.length
  let host ← if written.isEmpty then pure (.name "") else readNamed written
  let host := if host = .name "localhost" then .name "" else host
  let text := if text.head?.any isSlash then text.drop 1 else text
  let (address, drive) := onwards "file" (some (.ofHost host)) [] text
  return if drive then { address with authority := some nowhere } else address

/-- The address of a file, perhaps relative to that of another one. -/
def readFile (base : Option Address) (text : List Char) : Except Fault Address :=
  match text with
  | [] => fileOrBase base text
  | c :: rest =>
    if isSlash c then
      if rest.head?.any isSlash then fileAfterSlashes (rest.drop 1)
      else
        match base with
        | some base =>
          if startsWithDrive rest then .ok (onwards "file" (some nowhere) [] rest).1
          else
            match base.route.segments.head? with
            | some first =>
              if isPlainDrive first then .ok (onwards "file" (some nowhere) [first] rest).1
              else .ok (onwards "file" base.authority [] rest).1
            | none => .ok (onwards "file" base.authority [] rest).1
        | none => .ok (onwards "file" (some nowhere) [] rest).1
    else fileOrBase base text
where
  /-- The address of a text that does not begin with a slash. -/
  fileOrBase (base : Option Address) (text : List Char) : Except Fault Address :=
    match base with
    | some base =>
      if text.isEmpty || text.head?.any endsPath then resolve base text
      else if startsWithDrive text then .ok (onwards "file" (some nowhere) [] text).1
      else
        let segments := base.route.segments
        let done :=
          if segments.getLast?.any isPlainDrive then segments else segments.dropLast
        .ok (onwards "file" base.authority done text).1
    | none => .ok (onwards "file" (some nowhere) [] text).1

/-! ## Whole texts -/

/-- An address whose scheme has been read. -/
def readAfterScheme (base : Option Address) (scheme : String) (text : List Char) :
    Except Fault Address :=
  match Family.ofScheme scheme with
  | .file => readFile (base.filter (·.scheme == "file")) text
  | .special =>
    let slashes := text.takeWhile isSlash
    match base with
    | some base =>
      if slashes.length < 2 && base.scheme == scheme then resolve base text
      else afterSlashes scheme (text.drop slashes.length)
    | none => afterSlashes scheme (text.drop slashes.length)
  | .other =>
    match text with
    | '/' :: '/' :: rest => afterSlashes scheme rest
    | '/' :: rest => .ok (onwards scheme none [] rest).1
    | _ =>
      let path := text.takeWhile (!endsPath ·)
      let address : Address :=
        ⟨scheme, none, .rigid (String.ofList (encode .plain path)), none, none⟩
      .ok (address.withTail (text.drop path.length))

/-- The address of a text, perhaps relative to a base. -/
def read (base : Option Address) (text : String) : Except Fault Address :=
  let text := cleaned text
  match splitScheme text with
  | some (scheme, rest) => readAfterScheme base scheme rest
  | none =>
    match base with
    | none => .error .noBase
    | some base =>
      if text.head? == some '#' then .ok { base with fragment := readFragment text }
      else
        match base.route with
        | .rigid _ => .error .rigidBase
        | .segmented _ =>
          if base.scheme = "file" then readFile (some base) text else resolve base text

end SealedCredentials.Address
