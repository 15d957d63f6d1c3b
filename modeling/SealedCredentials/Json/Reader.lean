import SealedCredentials.Json.Number
import SealedCredentials.Json.Quote

/-!
# Reading JSON texts

`Value.parse` reads a whole text into a value: blanks are space, tab and the two line ends;
at most 127 arrays and objects may be open at a time.  `skipValue` steps over a value that
nobody asks for and checks its spelling only: any nesting, any number, any escape.

Both descend through the same two walks, `elements` and `members`, which read what stands
between brackets and between braces.  Fuel bounds the count of elements; the length of the
text is always enough of it.
-/

set_option autoImplicit false

namespace SealedCredentials.Json

/-- A blank between tokens. -/
def isSpace (c : Char) : Bool := c = ' ' || c = '\t' || c = '\n' || c = '\r'

/-- A text without the blanks at its head. -/
def skipSpace (text : List Char) : List Char := text.dropWhile isSpace

/-- What follows a word that must stand at the head of a text. -/
def expectWord : List Char → List Char → Except Fault (List Char)
  | [], text => .ok text
  | expected :: word, c :: text =>
    if c = expected then expectWord word text else .error .malformed
  | _ :: _, [] => .error .malformed

/-! ## Walks -/

/-- The elements up to the closing bracket, at least one. -/
def moreElements {α : Type} (read : List Char → Except Fault (α × List Char)) :
    Nat → List Char → Except Fault (List α × List Char)
  | 0, _ => .error .malformed
  | fuel + 1, text => do
    let (element, rest) ← read text
    match skipSpace rest with
    | ',' :: rest =>
      let (later, rest) ← moreElements read fuel rest
      return (element :: later, rest)
    | ']' :: rest => return ([element], rest)
    | _ => throw .malformed

/-- The elements after an opening bracket, and what follows the closing one. -/
def elements {α : Type} (read : List Char → Except Fault (α × List Char)) (fuel : Nat)
    (text : List Char) : Except Fault (List α × List Char) :=
  match skipSpace text with
  | ']' :: rest => .ok ([], rest)
  | _ => moreElements read fuel text

/-- What follows the colon after a name. -/
def afterColon (text : List Char) : Except Fault (List Char) :=
  match skipSpace text with
  | ':' :: rest => .ok rest
  | _ => .error .malformed

/-- The members up to the closing brace, at least one.  `take` gets what was gathered, the
name of a member and the text after the name. -/
def moreMembers {σ ν : Type} (name : List Char → Except Fault (ν × List Char))
    (take : σ → ν → List Char → Except Fault (σ × List Char)) :
    Nat → σ → List Char → Except Fault (σ × List Char)
  | 0, _, _ => .error .malformed
  | fuel + 1, gathered, text =>
    match skipSpace text with
    | '"' :: rest => do
      let (called, rest) ← name rest
      let (gathered, rest) ← take gathered called rest
      match skipSpace rest with
      | ',' :: rest => moreMembers name take fuel gathered rest
      | '}' :: rest => return (gathered, rest)
      | _ => throw .malformed
    | _ => .error .malformed

/-- The members after an opening brace, and what follows the closing one. -/
def members {σ ν : Type} (name : List Char → Except Fault (ν × List Char))
    (take : σ → ν → List Char → Except Fault (σ × List Char)) (fuel : Nat) (start : σ)
    (text : List Char) : Except Fault (σ × List Char) :=
  match skipSpace text with
  | '}' :: rest => .ok (start, rest)
  | _ => moreMembers name take fuel start text

/-! ## Stepping over a value -/

/-- The name of a member that is stepped over. -/
def skipName (text : List Char) : Except Fault (Unit × List Char) := do
  let rest ← skipString text
  return ((), rest)

/-- What follows the value at the head of a text, in which at most `depth` arrays and objects
are open at a time. -/
def skipNested (fuel : Nat) : Nat → List Char → Except Fault (Unit × List Char)
  | depth, text =>
    match skipSpace text with
    | [] => .error .malformed
    | 'n' :: rest => (expectWord ['u', 'l', 'l'] rest).map ((), ·)
    | 't' :: rest => (expectWord ['r', 'u', 'e'] rest).map ((), ·)
    | 'f' :: rest => (expectWord ['a', 'l', 's', 'e'] rest).map ((), ·)
    | '"' :: rest => skipName rest
    | '[' :: rest =>
      match depth with
      | 0 => .error .malformed
      | depth + 1 => do
        let (_, rest) ← elements (skipNested fuel depth) fuel rest
        return ((), rest)
    | '{' :: rest =>
      match depth with
      | 0 => .error .malformed
      | depth + 1 =>
        members skipName
          (fun _ _ rest => do skipNested fuel depth (← afterColon rest)) fuel () rest
    | c :: rest => (lexNumber (c :: rest)).map fun (_, rest) => ((), rest)

/-- What follows the value at the head of a text.  Its nesting cannot exceed its length. -/
def skipValue (text : List Char) : Except Fault (List Char) := do
  let (_, rest) ← skipNested text.length text.length text
  return rest

/-! ## Reading a value -/

/-- The value at the head of a text, in which at most `depth` arrays and objects are open at
a time, and what follows it. -/
def readNested (fuel : Nat) : Nat → List Char → Except Fault (Value × List Char)
  | depth, text =>
    match skipSpace text with
    | [] => .error .malformed
    | 'n' :: rest => (expectWord ['u', 'l', 'l'] rest).map (.null, ·)
    | 't' :: rest => (expectWord ['r', 'u', 'e'] rest).map (.bool true, ·)
    | 'f' :: rest => (expectWord ['a', 'l', 's', 'e'] rest).map (.bool false, ·)
    | '"' :: rest => (readString rest).map fun (value, rest) => (.text value, rest)
    | '[' :: rest =>
      match depth with
      | 0 => .error .malformed
      | depth + 1 => do
        let (values, rest) ← elements (readNested fuel depth) fuel rest
        return (.array values, rest)
    | '{' :: rest =>
      match depth with
      | 0 => .error .malformed
      | depth + 1 => do
        let (entries, rest) ← members readString
          (fun entries name rest => do
            let (value, rest) ← readNested fuel depth (← afterColon rest)
            return (insertMember name value entries, rest)) fuel [] rest
        return (.object entries, rest)
    | c :: rest => (readNumber (c :: rest)).map fun (value, rest) => (.number value, rest)

/-- How many arrays and objects may be open at a time. -/
def nestingLimit : Nat := 127

/-- Nothing but blanks may follow a finished value. -/
def atEnd {α : Type} (value : α) (rest : List Char) : Except Fault α :=
  if (skipSpace rest).isEmpty then .ok value else .error .malformed

/-- The value of a whole text. -/
def Value.parse (text : String) : Except Fault Value := do
  let characters := text.toList
  let (value, rest) ← readNested characters.length nestingLimit characters
  atEnd value rest

/-! ## Describing a value -/

/-- What stands at the head of a text.  An array or object is told by its first character
alone; anything else has to be spelled right. -/
def readFound (text : List Char) : Except Fault Found :=
  match skipSpace text with
  | '[' :: _ => .ok .sequence
  | '{' :: _ => .ok .map
  | other => (readNested 0 0 other).map fun (value, _) => value.found

end SealedCredentials.Json
