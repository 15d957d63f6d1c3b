import SealedCredentials.Json.Reader

/-!
# Records in JSON

A record is an object whose members are known by name, each a string or an unsigned integer.
It may also come as an array of its members in the order of their declaration.  Read from a
text, the first problem in the order of the text is reported, a known member may stand only
once, and members with other names are stepped over.  Read from a value, where names are in
order and distinct already, only the types are left to check.
-/

set_option autoImplicit false

namespace SealedCredentials.Json

/-! ## Shapes -/

/-- What a member must be. -/
inductive Kind where
  | text
  | optionalText
  | unsigned (bits : Nat)
  deriving DecidableEq, Repr

/-- The wording for what is expected. -/
def Kind.expected : Kind → String
  | .text => "a string"
  | .optionalText => "a string"
  | .unsigned bits => "u" ++ toString bits

/-- A member of a record. -/
structure Field where
  name : String
  kind : Kind
  mayMiss : Bool
  deriving DecidableEq, Repr

/-- A record's name and its members in the order of their declaration. -/
structure Shape where
  name : String
  fields : List Field
  deriving DecidableEq, Repr

namespace Shape

/-- The member of a name. -/
def field? (shape : Shape) (name : String) : Option Field :=
  shape.fields.find? fun field => field.name == name

/-- The wording for the record itself. -/
def expected (shape : Shape) : String := "struct " ++ shape.name

/-- The wording for the record as an array. -/
def expectedElements (shape : Shape) : String :=
  shape.expected ++ " with " ++ toString shape.fields.length ++
    (if shape.fields.length = 1 then " element" else " elements")

end Shape

/-- What a member holds. -/
inductive Scalar where
  | text (value : String)
  | count (value : Nat)
  | absent
  deriving DecidableEq, Repr

/-- Members of a record by name. -/
abbrev Members := List (String × Scalar)

namespace Members

/-- The string that a member holds, or `standard` without such a member. -/
def text (gathered : Members) (name standard : String) : String :=
  match gathered.lookup name with
  | some (.text value) => value
  | _ => standard

/-- The string that a member holds, if any. -/
def text? (gathered : Members) (name : String) : Option String :=
  match gathered.lookup name with
  | some (.text value) => some value
  | _ => none

/-- The integer that a member holds, or `standard` without such a member. -/
def count (gathered : Members) (name : String) (standard : Nat) : Nat :=
  match gathered.lookup name with
  | some (.count value) => value
  | _ => standard

end Members

/-- The required members that are not there: the first one in the order of declaration is
reported. -/
def Shape.complete (shape : Shape) (gathered : Members) : Except Fault Members :=
  match shape.fields.find? fun field => !field.mayMiss && (gathered.lookup field.name).isNone with
  | some field => .error (.missing field.name)
  | none => .ok gathered

/-- The position of the first required member among those that an array leaves out. -/
def firstRequired : Nat → List Field → Option Nat
  | _, [] => none
  | position, field :: later =>
    if field.mayMiss then firstRequired (position + 1) later else some position

/-- The integer of a number that fits the bits of a member. -/
def Number.fit (number : Number) (bits : Nat) : Except Fault Scalar :=
  match number with
  | .natural value =>
    if value < Nat.pow 2 bits then .ok (.count value)
    else .error (.outOfRange number (Kind.unsigned bits).expected)
  | .negative _ => .error (.outOfRange number (Kind.unsigned bits).expected)
  | .real _ _ => .error (.wrongType (.number number) (Kind.unsigned bits).expected)

/-! ## Reading from a text -/

/-- A complaint about what stands at the head of a text. -/
def complain {α : Type} (expected : String) (text : List Char) : Except Fault α := do
  throw (.wrongType (← readFound text) expected)

/-- A member's value at the head of a text, and what follows it. -/
def readScalar (kind : Kind) (text : List Char) : Except Fault (Scalar × List Char) :=
  match skipSpace text with
  | [] => .error .malformed
  | c :: rest =>
    match kind with
    | .unsigned bits =>
      if c = '-' || Arithmetic.Decimal.isDigit c then do
        let (number, rest) ← readNumber (c :: rest)
        let value ← number.fit bits
        return (value, rest)
      else complain kind.expected (c :: rest)
    | .text =>
      if c = '"' then (readString rest).map fun (value, rest) => (.text value, rest)
      else complain kind.expected (c :: rest)
    | .optionalText =>
      if c = '"' then (readString rest).map fun (value, rest) => (.text value, rest)
      else if c = 'n' then (expectWord ['u', 'l', 'l'] rest).map (.absent, ·)
      else complain kind.expected (c :: rest)

namespace Shape

/-- One more member of an object, given its name and the text after it. -/
def takeMember (shape : Shape) (gathered : Members) (name : String) (text : List Char) :
    Except Fault (Members × List Char) :=
  match shape.field? name with
  | some field =>
    if (gathered.lookup name).isSome then .error (.duplicate name)
    else do
      let (value, rest) ← readScalar field.kind (← afterColon text)
      return (gathered ++ [(name, value)], rest)
  | none => do
    let rest ← skipValue (← afterColon text)
    return (gathered, rest)

/-- The elements of an array from `position` on, as the members they stand for. -/
def readElements (shape : Shape) : Nat → List Field → List Char →
    Except Fault (Members × List Char)
  | _, [], text =>
    match skipSpace text with
    | ']' :: rest => .ok ([], rest)
    | _ => .error .malformed
  | position, field :: later, text =>
    match skipSpace text with
    | ']' :: rest =>
      match firstRequired position (field :: later) with
      | some missing => .error (.badLength missing shape.expectedElements)
      | none => .ok ([], rest)
    | other => do
      let start ←
        if position = 0 then pure other
        else match other with
        | ',' :: rest => pure rest
        | _ => throw .malformed
      let (value, rest) ← readScalar field.kind start
      let (gathered, rest) ← readElements shape (position + 1) later rest
      return ((field.name, value) :: gathered, rest)

/-- The record at the head of a text, and what follows it. -/
def read (shape : Shape) (text : List Char) : Except Fault (Members × List Char) :=
  match skipSpace text with
  | '{' :: rest => do
    let (gathered, rest) ← members readString shape.takeMember rest.length [] rest
    let gathered ← shape.complete gathered
    return (gathered, rest)
  | '[' :: rest => shape.readElements 0 shape.fields rest
  | other => complain shape.expected other

/-- The record of a whole text. -/
def parse (shape : Shape) (text : String) : Except Fault Members := do
  let (gathered, rest) ← shape.read text.toList
  atEnd gathered rest

end Shape

/-! ## Reading from a value -/

/-- A member's value. -/
def Value.scalar (kind : Kind) (value : Value) : Except Fault Scalar :=
  match kind, value with
  | .unsigned bits, .number held => held.fit bits
  | .text, .text held => .ok (.text held)
  | .optionalText, .text held => .ok (.text held)
  | .optionalText, .null => .ok .absent
  | _, _ => .error (.wrongType value.found kind.expected)

namespace Shape

/-- The known members among those of an object. -/
def knownMembers (shape : Shape) : List (String × Value) → Except Fault Members
  | [] => .ok []
  | (name, value) :: later =>
    match shape.field? name with
    | some field => do
      let held ← value.scalar field.kind
      let gathered ← shape.knownMembers later
      return (name, held) :: gathered
    | none => shape.knownMembers later

/-- The elements of an array from `position` on, as the members they stand for. -/
def knownElements (shape : Shape) (length : Nat) : Nat → List Field → List Value →
    Except Fault Members
  | _, [], [] => .ok []
  | _, [], _ :: _ => .error (.badLength length "fewer elements in array")
  | position, field :: later, [] =>
    match firstRequired position (field :: later) with
    | some missing => .error (.badLength missing shape.expectedElements)
    | none => .ok []
  | position, field :: later, value :: values => do
    let held ← value.scalar field.kind
    let gathered ← shape.knownElements length (position + 1) later values
    return (field.name, held) :: gathered

/-- The record that a value is. -/
def ofValue (shape : Shape) (value : Value) : Except Fault Members :=
  match value with
  | .object entries => do shape.complete (← shape.knownMembers entries)
  | .array values => shape.knownElements values.length 0 shape.fields values
  | _ => .error (.wrongType value.found shape.expected)

end Shape

/-! ## Writing -/

/-- A member's value as it is written. -/
def Scalar.write : Scalar → List Char
  | .text value => writeString value.toList
  | .count value => Arithmetic.Decimal.digits value
  | .absent => ['n', 'u', 'l', 'l']

/-- A member as it is written. -/
def writeMember (member : String × Scalar) : List Char :=
  writeString member.1.toList ++ ':' :: member.2.write

/-- Members as they are written: compact, in the given order. -/
def Members.write (gathered : Members) : String :=
  String.ofList ('{' :: [','].intercalate (gathered.map writeMember) ++ ['}'])

end SealedCredentials.Json
