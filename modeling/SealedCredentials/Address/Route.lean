import SealedCredentials.Address.Host

/-!
# Routes

The path of an address is a list of segments.  A relative path goes on from the segments of
another address: a single dot stays where it is, two dots go one segment up.  A segment that
names a drive is never left upwards.
-/

set_option autoImplicit false

namespace SealedCredentials.Address

/-- Schemes by how their addresses are read. -/
inductive Family where
  | file
  | special
  | other
  deriving DecidableEq, Repr

/-- The family of a scheme. -/
def Family.ofScheme (scheme : String) : Family :=
  if scheme = "file" then .file
  else if ["http", "https", "ws", "wss", "ftp"].contains scheme then .special
  else .other

/-- The port that a scheme stands for. -/
def defaultPort? (scheme : String) : Option Nat :=
  if scheme = "http" || scheme = "ws" then some 80
  else if scheme = "https" || scheme = "wss" then some 443
  else if scheme = "ftp" then some 21
  else none

/-- A slash, of either kind. -/
def isSlash (c : Char) : Bool := c == '/' || c == '\\'

/-- A character between segments. -/
def Family.separates (family : Family) (c : Char) : Bool :=
  c == '/' || (c == '\\' && family != .other)

/-- A segment that stays where it is. -/
def isSingleDot (segment : List Char) : Bool :=
  [".", "%2e"].contains (String.ofList (segment.map Char.toLower))

/-- A segment that goes one up. -/
def isDoubleDot (segment : List Char) : Bool :=
  ["..", "%2e.", ".%2e", "%2e%2e"].contains (String.ofList (segment.map Char.toLower))

/-- A segment that names a drive. -/
def isDrive : List Char → Bool
  | [letter, mark] => letter.isAlpha && (mark == ':' || mark == '|')
  | _ => false

/-- A text that begins with a segment that names a drive. -/
def startsWithDrive (text : List Char) : Bool :=
  isDrive (text.takeWhile fun c => !isSlash c && c != '?' && c != '#')

/-- A segment that names a drive in the usual way. -/
def isPlainDrive (segment : String) : Bool :=
  isDrive segment.toList && segment.toList.getLast? == some ':'

/-- The segments one up. -/
def parent (segments : List String) : List String :=
  match segments.getLast? with
  | some last => if isDrive last.toList then segments else segments.dropLast
  | none => []

/-- The segments that were read so far, and whether a drive was named among them. -/
structure Trail where
  segments : List String
  drive : Bool
  deriving DecidableEq, Repr

namespace Trail

/-- One more segment, or the way that a dotted one goes. -/
def place (trail : Trail) (family : Family) (segment : List Char) (isLast : Bool) : Trail :=
  let closing := if isLast then [""] else []
  if isDoubleDot segment then { trail with segments := parent trail.segments ++ closing }
  else if isSingleDot segment then { trail with segments := trail.segments ++ closing }
  else if family = .file && trail.segments.all String.isEmpty && isDrive segment then
    ⟨trail.segments ++ [String.ofList (segment.take 1 ++ [':'])], true⟩
  else { trail with segments := trail.segments ++ [String.ofList segment] }

/-- Further segments. -/
def walk (family : Family) : Trail → List (List Char) → Trail
  | trail, [] => trail
  | trail, [segment] => trail.place family segment true
  | trail, segment :: later => walk family (trail.place family segment false) later

end Trail

/-- Segments without the empty ones at the beginning; one is left if there is no other. -/
def dropEmpty : List String → List String
  | first :: second :: later =>
    if first.isEmpty then dropEmpty (second :: later) else first :: second :: later
  | segments => segments

/-- The segments of a path that goes on from `done`. -/
def follow (family : Family) (done : List String) (path : List Char) : Trail :=
  let written := (pieces family.separates path).map (encode .path)
  let trail := Trail.walk family ⟨done, false⟩ written
  if family = .file then { trail with segments := dropEmpty trail.segments } else trail

end SealedCredentials.Address
