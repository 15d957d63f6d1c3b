import SealedCredentials.Message.Handshake

/-!
# Status reports

The server reports on a submission under one name, the level of the report: an object with
exactly one member, whose value holds a code, a message and perhaps details.
-/

set_option autoImplicit false

namespace SealedCredentials.Message

/-- A report on a submission. -/
structure StatusReport where
  level : String
  code : UInt16
  message : String
  details : Option String
  deriving DecidableEq, Repr

namespace StatusReport

/-- The members of what stands under the level. -/
def shape : Json.Shape :=
  ⟨"ApiReplyBody",
    [⟨"code", .unsigned 16, false⟩, ⟨"message", .text, false⟩,
      ⟨"details", .optionalText, true⟩]⟩

/-- The report of a level and what stands under it. -/
def ofBody (level : String) (body : Json.Value) : Except Fault StatusReport :=
  match shape.ofValue body with
  | .ok gathered =>
    .ok ⟨level, UInt16.ofNat (gathered.count "code" 0), gathered.text "message" "",
      gathered.text? "details"⟩
  | .error cause => .error (.json cause)

/-- The report of a text. -/
def parse (text : String) : Except Fault StatusReport := do
  match ← parseObject text with
  | [] => throw (.missingField "level")
  | [(level, body)] => ofBody level body
  | _ => throw (.invalidField "body" "expected exactly one level key")

/-- A report as it is written; details that are not there are left out. -/
def write (report : StatusReport) : String :=
  let details : Json.Members :=
    match report.details with
    | some text => [("details", .text text)]
    | none => []
  let body : Json.Members :=
    [("code", .count report.code.toNat), ("message", .text report.message)] ++ details
  String.ofList
    ('{' :: Json.writeString report.level.toList ++ ':' :: body.write.toList ++ ['}'])

/-- Whether a report tells of an error: its level says so in any case of letters. -/
def isError (report : StatusReport) : Bool := Text.lowerAscii report.level == "error"

end StatusReport

end SealedCredentials.Message
