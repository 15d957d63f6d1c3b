import SealedCredentials.Message.StatusReport
import SealedCredentials.Proofs.Json.Record

/-!
# Which texts are status reports

A text is a report if it spells an object of members of one name, the level, and the last of them
holds a code, a message and perhaps details, as an object or as an array (`HeldBy`).  What is wrong
with any other text is told by its shape: no JSON, no object, no member, members of several names,
or one level over something else (`parse_classified`).  What is written for a report is read as this
report.
-/

set_option autoImplicit false

namespace SealedCredentials.Message.StatusReport

open Json

/-! ## What stands under the level -/

/-- A value holds a code, a message and perhaps details, whatever these are: an object, in which
other members do not matter, or an array of two or three elements. -/
inductive Holds (code : Nat) (message : String) : Option Value → Value → Prop where
  | object {entries : List (String × Value)}
      (coded : entries.lookup "code" = some (.number (.natural code)))
      (worded : entries.lookup "message" = some (.text message)) :
      Holds code message (entries.lookup "details") (.object entries)
  | pair : Holds code message none (.array [.number (.natural code), .text message])
  | triple (details : Value) :
      Holds code message (some details) (.array [.number (.natural code), .text message, details])

/-- A value holds what a report says.  Details that are not there may be left out or be null. -/
def HeldBy (report : StatusReport) (body : Value) : Prop :=
  ∃ details, Holds report.code.toNat report.message details body ∧
    (details = report.details.map .text ∨ report.details = none ∧ details = some .null)

theorem Holds.unique {code other : Nat} {message another : String} {details more : Option Value}
    {body : Value} (holds : Holds code message details body)
    (also : Holds other another more body) :
    code = other ∧ message = another ∧ details = more := by
  cases holds with
  | object coded worded =>
    cases also with
    | object coded' worded' =>
      cases coded.symm.trans coded'
      cases worded.symm.trans worded'
      exact ⟨rfl, rfl, rfl⟩
  | pair =>
    cases also
    exact ⟨rfl, rfl, rfl⟩
  | triple =>
    cases also
    exact ⟨rfl, rfl, rfl⟩

variable {level : String} {body : Value} {gathered : Members}

/-- What is gathered for details: none are there, or they are null, or a string. -/
inductive Gathers : Option Value → Option Scalar → Prop where
  | missing : Gathers none none
  | null : Gathers (some .null) (some .absent)
  | text (held : String) : Gathers (some (.text held)) (some (.text held))

theorem Gathers.of_scalar {value : Value} {scalar : Scalar}
    (fits : value.scalar .optionalText = .ok scalar) : Gathers (some value) (some scalar) := by
  rcases scalar_optionalText_eq_ok_iff.mp fits with ⟨rfl, rfl⟩ | ⟨text, rfl, rfl⟩
  · exact .null
  · exact .text text

theorem Gathers.takes {details : Option Value} {held : Option Scalar}
    (gathers : Gathers details held) {field : Field} (kind : field.kind = .optionalText) :
    Shape.Takes field details held := by
  cases gathers with
  | missing => exact .missing
  | null =>
    refine .present ?_
    rw [kind]
    rfl
  | text held =>
    refine .present ?_
    rw [kind]
    rfl

/-- The members that were read stand for what a value holds. -/
structure StandsFor (gathered : Members) (body : Value) (code : Nat) (message : String)
    (details : Option Value) : Prop where
  holds : Holds code message details body
  small : code < Nat.pow 2 16
  coded : gathered.lookup "code" = some (.count code)
  worded : gathered.lookup "message" = some (.text message)
  detailed : Gathers details (gathered.lookup "details")

theorem standsFor_of_object {entries : List (String × Value)}
    (read : shape.ofValue (.object entries) = .ok gathered) :
    ∃ code message,
      StandsFor gathered (.object entries) code message (entries.lookup "details") := by
  have code_there : (⟨"code", .unsigned 16, false⟩ : Field) ∈ shape.fields := by simp [shape]
  have message_there : (⟨"message", .text, false⟩ : Field) ∈ shape.fields := by simp [shape]
  have details_there : (⟨"details", .optionalText, true⟩ : Field) ∈ shape.fields := by simp [shape]
  obtain ⟨code, needed⟩ := Shape.takes_of_ofValue read code_there rfl
  obtain ⟨message, wanted⟩ := Shape.takes_of_ofValue read message_there rfl
  obtain ⟨details, -⟩ := Shape.takes_of_ofValue read details_there rfl
  obtain ⟨first, scalar, found, coded, fits⟩ := code.of_ne_none (needed rfl)
  obtain ⟨code, rfl, small, rfl⟩ := scalar_unsigned_eq_ok_iff.mp fits
  obtain ⟨second, scalar, named, worded, fits⟩ := message.of_ne_none (wanted rfl)
  obtain ⟨message, rfl, rfl⟩ := scalar_text_eq_ok_iff.mp fits
  refine ⟨code, message, .object found named, small, coded, worded, ?_⟩
  dsimp only at details
  generalize entries.lookup "details" = third at details ⊢
  generalize gathered.lookup "details" = held at details ⊢
  cases details with
  | missing => exact .missing
  | present fits => exact .of_scalar fits

theorem standsFor_of_array {values : List Value}
    (read : shape.ofValue (.array values) = .ok gathered) :
    ∃ code message details, StandsFor gathered (.array values) code message details := by
  rcases values with _ | ⟨first, others⟩
  · cases read
  · obtain ⟨scalar, rest, fits, second, rfl⟩ := Shape.knownElements_cons_eq_ok_iff.mp read
    obtain ⟨code, rfl, small, rfl⟩ := scalar_unsigned_eq_ok_iff.mp fits
    rcases others with _ | ⟨value, others⟩
    · cases second
    · obtain ⟨scalar, rest, fits, third, rfl⟩ := Shape.knownElements_cons_eq_ok_iff.mp second
      obtain ⟨message, rfl, rfl⟩ := scalar_text_eq_ok_iff.mp fits
      rcases others with _ | ⟨details, others⟩
      · cases third
        exact ⟨code, message, none, .pair, small, rfl, rfl, .missing⟩
      · obtain ⟨scalar, rest, fits, ends, rfl⟩ := Shape.knownElements_cons_eq_ok_iff.mp third
        rcases others with _ | ⟨surplus, others⟩
        · cases ends
          exact ⟨code, message, some details, .triple details, small, rfl, rfl, .of_scalar fits⟩
        · cases ends

/-- Whatever is read stands for a code, a message and details. -/
theorem standsFor_of_ofValue (read : shape.ofValue body = .ok gathered) :
    ∃ code message details, StandsFor gathered body code message details := by
  cases body with
  | object entries =>
    obtain ⟨code, message, stands⟩ := standsFor_of_object read
    exact ⟨code, message, _, stands⟩
  | array values => exact standsFor_of_array read
  | null => cases read
  | bool value => cases read
  | number value => cases read
  | text value => cases read

/-- A value that holds a small code, a message and details of the right type is read. -/
theorem exists_ofValue {code : Nat} {message : String} {details : Option Value}
    {held : Option Scalar} (holds : Holds code message details body) (small : code < Nat.pow 2 16)
    (gathers : Gathers details held)
    (ordered : ∀ entries, body = .object entries → IsOrdered entries) :
    ∃ gathered, shape.ofValue body = .ok gathered := by
  have coded : (Value.number (.natural code)).scalar (.unsigned 16) = .ok (.count code) :=
    scalar_unsigned_eq_ok_iff.mpr ⟨code, rfl, small, rfl⟩
  have worded : (Value.text message).scalar .text = .ok (.text message) := rfl
  cases holds with
  | @object entries code_found message_found =>
    have first : Shape.Takes ⟨"code", .unsigned 16, false⟩ (entries.lookup "code")
        (some (.count code)) := by
      rw [code_found]
      exact .present coded
    have second : Shape.Takes ⟨"message", .text, false⟩ (entries.lookup "message")
        (some (.text message)) := by
      rw [message_found]
      exact .present worded
    have third : Shape.Takes ⟨"details", .optionalText, true⟩ (entries.lookup "details") held :=
      gathers.takes rfl
    refine Shape.exists_ofValue (ordered entries rfl) ?_ ?_
    · simp [shape, Shape.field?]
    · simp only [shape, List.forall_mem_cons]
      exact ⟨⟨_, first, by simp⟩, ⟨_, second, by simp⟩, ⟨_, third, by simp⟩, List.forall_mem_nil _⟩
  | pair =>
    refine ⟨[("code", .count code), ("message", .text message)], ?_⟩
    simp only [Shape.ofValue, shape, Shape.knownElements, coded, worded]
    rfl
  | triple value =>
    obtain ⟨scalar, fits⟩ : ∃ scalar, value.scalar .optionalText = .ok scalar := by
      cases gathers with
      | null => exact ⟨_, rfl⟩
      | text held => exact ⟨_, rfl⟩
    refine ⟨[("code", .count code), ("message", .text message), ("details", scalar)], ?_⟩
    simp only [Shape.ofValue, shape, Shape.knownElements, coded, worded, fits]
    rfl

/-- The report that is made of members holds what these stand for. -/
theorem StandsFor.heldBy {code : Nat} {message : String} {details : Option Value}
    (stands : StandsFor gathered body code message details) :
    HeldBy ⟨level, UInt16.ofNat (gathered.count "code" 0), gathered.text "message" "",
      gathered.text? "details"⟩ body := by
  obtain ⟨holds, small, coded, worded, detailed⟩ := stands
  have number : (UInt16.ofNat (gathered.count "code" 0)).toNat = code := by
    rw [Members.count, coded]
    exact UInt16.toNat_ofNat_of_lt small
  have words : gathered.text "message" "" = message := by
    rw [Members.text, worded]
  refine ⟨details, ?_, ?_⟩
  · rw [number, words]
    exact holds
  · rw [Members.text?]
    generalize gathered.lookup "details" = held at detailed
    cases detailed with
    | missing => exact .inl rfl
    | null => exact .inr ⟨rfl, rfl⟩
    | text held => exact .inl rfl

/-- What a value holds settles all but the level of a report. -/
theorem HeldBy.unique {report other : StatusReport} (held : report.HeldBy body)
    (also : other.HeldBy body) (same : report.level = other.level) : report = other := by
  obtain ⟨details, holds, stands⟩ := held
  obtain ⟨details', holds', stands'⟩ := also
  obtain ⟨code, message, rfl⟩ := holds.unique holds'
  obtain ⟨level, number, words, more⟩ := report
  obtain ⟨level', number', words', more'⟩ := other
  have details : more = more' := by
    rcases stands with rfl | ⟨none, rfl⟩
    · rcases stands' with both | ⟨none', null⟩
      · exact Option.map_injective (fun _ _ equal => Value.text.inj equal) both
      · cases more with
        | none => cases null
        | some text => cases null
    · rcases stands' with both | ⟨none', -⟩
      · cases more' with
        | none => cases both
        | some text => cases both
      · exact none.trans none'.symm
  obtain rfl : number = number' := UInt16.toNat_inj.mp code
  cases same
  cases message
  cases details
  rfl

/-- **What stands under a level is read as the report that it holds.** -/
theorem ofBody_eq_ok_iff {report : StatusReport}
    (ordered : ∀ entries, body = .object entries → IsOrdered entries) :
    ofBody level body = .ok report ↔ report.level = level ∧ report.HeldBy body := by
  constructor
  · intro read
    rw [ofBody] at read
    split at read
    · next gathered known =>
      obtain ⟨code, message, details, stands⟩ := standsFor_of_ofValue known
      cases read
      exact ⟨rfl, stands.heldBy⟩
    · cases read
  · rintro ⟨rfl, held⟩
    obtain ⟨details, holds, stands⟩ := held
    have gathers : ∃ scalar, Gathers details scalar := by
      rcases stands with rfl | ⟨-, rfl⟩
      · cases report.details with
        | none => exact ⟨_, .missing⟩
        | some text => exact ⟨_, .text text⟩
      · exact ⟨_, .null⟩
    obtain ⟨scalar, gathers⟩ := gathers
    obtain ⟨gathered, known⟩ := exists_ofValue holds report.code.toNat_lt gathers ordered
    obtain ⟨code, message, details', stands'⟩ := standsFor_of_ofValue known
    rw [ofBody, known]
    exact congrArg Except.ok (stands'.heldBy.unique ⟨details, holds, stands⟩ rfl)

theorem ofBody_error {fault : Fault} (read : ofBody level body = .error fault) :
    ∃ cause, fault = .json cause := by
  rw [ofBody] at read
  split at read
  · cases read
  · cases read
    exact ⟨_, rfl⟩

/-! ## Whole texts -/

/-- A text wraps a value: it is an object of members of one name, and the last of them holds the
value. -/
def Wraps (text level : String) (body : Value) : Prop :=
  ∃ earlier, SpelledObject text (earlier ++ [(level, body)]) ∧ ∀ member ∈ earlier, member.1 = level

/-- A text is an object of members of more than one name. -/
def Mixes (text : String) : Prop :=
  ∃ raw, SpelledObject text raw ∧ ∃ first ∈ raw, ∃ second ∈ raw, first.1 ≠ second.1

/-- What the members of an object amount to. -/
def ofMembers : List (String × Value) → Except Fault StatusReport
  | [] => .error (.missingField "level")
  | [(level, body)] => ofBody level body
  | _ => .error (.invalidField "body" "expected exactly one level key")

variable {text : String}

theorem parse_of_unspelled (unspelled : ∀ value, ¬Spelled text value) :
    ∃ cause, parse text = .error (.json cause) := by
  cases read : Value.parse text with
  | ok value => exact absurd (Value.parse_eq_ok_iff.mp read) (unspelled value)
  | error cause =>
    refine ⟨cause, ?_⟩
    rw [parse, parseObject, parseValue, read]
    rfl

theorem parse_of_noObject {value : Value} (spelled : Spelled text value)
    (other : ∀ entries, value ≠ .object entries) :
    parse text = .error (.invalidField "body" "expected a JSON object") := by
  rw [parse, parseObject, parseValue, Value.parse_eq_ok_iff.mpr spelled]
  cases value with
  | object entries => exact absurd rfl (other entries)
  | null | bool | number | text | array => rfl

theorem parse_of_object {raw : List (String × Value)} (spelled : SpelledObject text raw) :
    parse text = ofMembers (gather raw) := by
  have read := Value.parse_eq_ok_iff.mpr (spelled_object_iff.mpr ⟨raw, spelled, rfl⟩)
  rw [parse, parseObject, parseValue, read]
  generalize gather raw = entries
  rcases entries with _ | ⟨first, _ | ⟨second, others⟩⟩
  · rfl
  · rfl
  · rfl

theorem parse_of_empty (spelled : SpelledObject text []) :
    parse text = .error (.missingField "level") := parse_of_object spelled

theorem parse_of_wraps (wraps : Wraps text level body) : parse text = ofBody level body := by
  obtain ⟨earlier, spelled, named⟩ := wraps
  rw [parse_of_object spelled, gather_eq_singleton_iff.mpr ⟨earlier, rfl, named⟩]
  rfl

theorem parse_of_mixes (mixes : Mixes text) :
    parse text = .error (.invalidField "body" "expected exactly one level key") := by
  obtain ⟨raw, spelled, first, here, second, there, different⟩ := mixes
  obtain ⟨value, found⟩ := exists_lookup_gather here
  obtain ⟨other, also⟩ := exists_lookup_gather there
  rw [parse_of_object spelled]
  generalize gather raw = entries at found also
  rcases entries with _ | ⟨⟨name, held⟩, _ | ⟨next, others⟩⟩
  · cases found
  · have only {entry : String × Value} {value : Value}
        (found : [(name, held)].lookup entry.1 = some value) : entry.1 = name := by
      by_contra elsewhere
      rw [lookup_cons_of_ne elsewhere] at found
      cases found
    exact absurd ((only found).trans (only also).symm) different
  · rfl

/-- What stands under a level has names in order. -/
theorem Wraps.ordered (wraps : Wraps text level body) :
    ∀ entries, body = .object entries → IsOrdered entries := by
  obtain ⟨earlier, ⟨before, inside, after, -, -, -, listed⟩, -⟩ := wraps
  obtain ⟨spelled, member⟩ := listed.spelled (level, body) (by simp)
  rintro entries rfl
  cases member with
  | named _ tail =>
    cases tail with
    | colon _ _ spells => exact isOrdered_of_spells spells

/-- What a text can be, and what it is read as. -/
inductive Verdict (text : String) : Except Fault StatusReport → Prop where
  | report {report : StatusReport} {body : Value} (wraps : Wraps text report.level body)
      (held : report.HeldBy body) : Verdict text (.ok report)
  | empty (spelled : SpelledObject text []) : Verdict text (.error (.missingField "level"))
  | noObject {value : Value} {reason : String} (spelled : Spelled text value)
      (other : ∀ entries, value ≠ .object entries) (said : reason = "expected a JSON object") :
      Verdict text (.error (.invalidField "body" reason))
  | mixes {reason : String} (mixes : Mixes text)
      (said : reason = "expected exactly one level key") :
      Verdict text (.error (.invalidField "body" reason))
  | unspelled (cause : Json.Fault) (unspelled : ∀ value, ¬Spelled text value) :
      Verdict text (.error (.json cause))
  | bodiless (cause : Json.Fault) {level : String} {body : Value} (wraps : Wraps text level body)
      (unheld : ∀ report, ¬HeldBy report body) : Verdict text (.error (.json cause))

theorem verdict_of_wraps (wraps : Wraps text level body) : Verdict text (parse text) := by
  rw [parse_of_wraps wraps]
  cases read : ofBody level body with
  | ok report =>
    obtain ⟨rfl, held⟩ := (ofBody_eq_ok_iff wraps.ordered).mp read
    exact .report wraps held
  | error fault =>
    obtain ⟨cause, rfl⟩ := ofBody_error read
    refine .bodiless cause wraps fun report held => ?_
    have also : HeldBy ⟨level, report.code, report.message, report.details⟩ body := held
    cases read.symm.trans ((ofBody_eq_ok_iff wraps.ordered).mpr ⟨rfl, also⟩)

/-- **Every text is one of these, and is read accordingly.** -/
theorem verdict_parse (text : String) : Verdict text (parse text) := by
  by_cases some : ∃ value, Spelled text value
  · obtain ⟨value, spelled⟩ := some
    by_cases object : ∃ entries, value = .object entries
    · obtain ⟨entries, rfl⟩ := object
      obtain ⟨raw, spelled, -⟩ := spelled_object_iff.mp spelled
      by_cases mixed : ∃ first ∈ raw, ∃ second ∈ raw, first.1 ≠ second.1
      · have mixes : Mixes text := ⟨raw, spelled, mixed⟩
        rw [parse_of_mixes mixes]
        exact .mixes mixes rfl
      · rcases List.eq_nil_or_concat raw with rfl | ⟨earlier, last, rfl⟩
        · rw [parse_of_empty spelled]
          exact .empty spelled
        · rw [List.concat_eq_append] at spelled mixed
          have wraps : Wraps text last.1 last.2 := by
            refine ⟨earlier, spelled, fun member present => ?_⟩
            by_contra different
            exact mixed ⟨member, List.mem_append_left _ present, last, by simp, different⟩
          exact verdict_of_wraps wraps
    · have other : ∀ entries, value ≠ .object entries := fun entries same => object ⟨entries, same⟩
      rw [parse_of_noObject spelled other]
      exact .noObject spelled other rfl
  · have unspelled : ∀ value, ¬Spelled text value := fun value spelled => some ⟨value, spelled⟩
    obtain ⟨cause, refused⟩ := parse_of_unspelled unspelled
    rw [refused]
    exact .unspelled cause unspelled

/-! ## Written reports -/

/-- Members under a level as they are written. -/
def rendering (level : String) (body : Members) : String :=
  String.ofList ('{' :: writeString level.toList ++ ':' :: body.write.toList ++ ['}'])

/-- What is written wraps its members. -/
theorem wraps_rendering (level : String) {body : Members}
    (fits : ∀ member ∈ body, member.2.Fits) :
    Wraps (rendering level body) level
      (.object (gather (body.map fun member => (member.1, member.2.value)))) := by
  have inner := spells_write fits (nestingLimit - 2)
  have member := spellsMember_write level inner
  have items := Items.last isGap_nil member isGap_nil
  rw [List.nil_append, List.append_nil] at items
  refine ⟨[], ⟨[], _, [], ?_, isGap_nil, isGap_nil, .some items⟩, List.forall_mem_nil _⟩
  rw [rendering, String.toList_ofList]
  simp

/-- The members of a report, the last of which may be left out. -/
def membersOf (report : StatusReport) (details : Option Scalar) : Members :=
  ("code", .count report.code.toNat) :: ("message", .text report.message) ::
    (details.map fun held => ("details", held)).toList

/-- The object of these members holds what the report says. -/
theorem heldBy_membersOf {report : StatusReport} {details : Option Scalar}
    (stands : details = report.details.map .text ∨
      report.details = none ∧ details = some .absent) :
    report.HeldBy (.object (gather
      ((membersOf report details).map fun member => (member.1, member.2.value)))) := by
  have distinct : (((membersOf report details).map
      fun member => (member.1, member.2.value)).map Prod.fst).Nodup := by
    cases details with
    | none => exact (by decide : ["code", "message"].Nodup)
    | some held => exact (by decide : ["code", "message", "details"].Nodup)
  refine ⟨_, .object ?_ ?_, ?_⟩
  · rw [lookup_gather_of_nodup distinct]
    rfl
  · rw [lookup_gather_of_nodup distinct]
    rfl
  · rw [lookup_gather_of_nodup distinct]
    rcases stands with rfl | ⟨none, rfl⟩
    · cases report.details with
      | none => exact .inl rfl
      | some text => exact .inl rfl
    · exact .inr ⟨none, rfl⟩

/-- **What is written for a report is read as this report**, whether details that are not there are
left out or written as null. -/
theorem parse_rendering {report : StatusReport} {details : Option Scalar}
    (stands : details = report.details.map .text ∨
      report.details = none ∧ details = some .absent) :
    parse (rendering report.level (membersOf report details)) = .ok report := by
  have fits : ∀ member ∈ membersOf report details, member.2.Fits := by
    have small : report.code.toNat < Nat.pow 2 64 := Nat.lt_trans report.code.toNat_lt (by decide)
    refine List.forall_mem_cons.mpr ⟨small, List.forall_mem_cons.mpr ⟨trivial, ?_⟩⟩
    rcases stands with rfl | ⟨-, rfl⟩
    · cases report.details with
      | none => exact List.forall_mem_nil _
      | some text => exact List.forall_mem_singleton.mpr trivial
    · exact List.forall_mem_singleton.mpr trivial
  have wraps := wraps_rendering report.level fits
  rw [parse_of_wraps wraps]
  exact (ofBody_eq_ok_iff wraps.ordered).mpr ⟨rfl, heldBy_membersOf stands⟩

theorem write_eq (report : StatusReport) :
    report.write = rendering report.level (membersOf report (report.details.map .text)) := by
  rw [write, membersOf]
  cases report.details with
  | none => rfl
  | some text => rfl

/-! ## The main result -/

/-- **A text is read as the report that it wraps, and otherwise its form tells what is wrong.**
What is no JSON within the limit of nesting is refused as such, and so is a level over something
that holds no report.  A text that is no object, an object without members and one with members of
several names are told apart.  Whatever is written for a report is read as this report. -/
theorem parse_classified :
    (∀ text,
      (∀ report, parse text = .ok report ↔
        ∃ body, Wraps text report.level body ∧ report.HeldBy body) ∧
      (parse text = .error (.missingField "level") ↔ SpelledObject text []) ∧
      (parse text = .error (.invalidField "body" "expected a JSON object") ↔
        ∃ value, Spelled text value ∧ ∀ entries, value ≠ .object entries) ∧
      (parse text = .error (.invalidField "body" "expected exactly one level key") ↔ Mixes text) ∧
      ((∃ cause, parse text = .error (.json cause)) ↔
        (∀ value, ¬Spelled text value) ∨
          ∃ level body, Wraps text level body ∧ ∀ report, ¬HeldBy report body)) ∧
    (∀ report, parse report.write = .ok report) ∧
    ∀ level (code : UInt16) message,
      parse (rendering level
        [("code", .count code.toNat), ("message", .text message), ("details", .absent)]) =
          .ok ⟨level, code, message, none⟩ := by
  refine ⟨fun text => ?_, fun report => ?_, fun level code message => ?_⟩
  · have verdict {result : Except Fault StatusReport} (read : parse text = result) :
        Verdict text result := read ▸ verdict_parse text
    refine ⟨fun report => ⟨fun read => ?_, ?_⟩, ⟨fun read => ?_, parse_of_empty⟩,
      ⟨fun read => ?_, ?_⟩, ⟨fun read => ?_, parse_of_mixes⟩, ⟨?_, ?_⟩⟩
    · cases verdict read with
      | report wraps held => exact ⟨_, wraps, held⟩
    · rintro ⟨body, wraps, held⟩
      rw [parse_of_wraps wraps]
      exact (ofBody_eq_ok_iff wraps.ordered).mpr ⟨rfl, held⟩
    · cases verdict read with
      | empty spelled => exact spelled
    · cases verdict read with
      | noObject spelled other => exact ⟨_, spelled, other⟩
      | mixes _ said => exact absurd said (by decide)
    · rintro ⟨value, spelled, other⟩
      exact parse_of_noObject spelled other
    · cases verdict read with
      | noObject _ _ said => exact absurd said (by decide)
      | mixes mixes => exact mixes
    · rintro ⟨cause, read⟩
      cases verdict read with
      | unspelled _ unspelled => exact .inl unspelled
      | bodiless _ wraps unheld => exact .inr ⟨_, _, wraps, unheld⟩
    · rintro (unspelled | ⟨level, body, wraps, unheld⟩)
      · exact parse_of_unspelled unspelled
      · rw [parse_of_wraps wraps]
        cases read : ofBody level body with
        | ok report => exact absurd ((ofBody_eq_ok_iff wraps.ordered).mp read).2 (unheld report)
        | error fault =>
          obtain ⟨cause, rfl⟩ := ofBody_error read
          exact ⟨cause, rfl⟩
  · rw [write_eq]
    exact parse_rendering (.inl rfl)
  · let report : StatusReport := ⟨level, code, message, none⟩
    have read : parse (rendering report.level (membersOf report (some .absent))) = .ok report :=
      parse_rendering (.inr ⟨rfl, rfl⟩)
    exact read

/-- The last of two members of one name counts, and an array stands for an object. -/
example :
    parse "\x7b\"INFO\": 1e3, \"INFO\": [200, \"\\u006f\\u006b\", null]\x7d" =
      .ok ⟨"INFO", 200, "ok", none⟩ := by
  decide +kernel

end SealedCredentials.Message.StatusReport
