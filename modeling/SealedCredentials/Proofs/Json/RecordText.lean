import SealedCredentials.Proofs.Json.Gathering

/-!
# Records as they are written

A record is written as an object or as an array.  In an object its members stand in any order, with
others between them that the record does not know.  In an array the values stand in the order of the
declaration, and only members that may miss are left out (`Fills`).  A text is read as a record
exactly if it describes one in one of these two ways (`Shape.parse_eq_ok_iff`).

What is written for a record is an object of its members in the order of the declaration, so it
describes them (`Shape.Holds.describes`).
-/

set_option autoImplicit false

namespace SealedCredentials.Json

open Arithmetic

/-! ## Objects -/

namespace Shape

/-- **A member is taken for what is written**, and nothing that stands behind it plays a part. -/
theorem takeMember_complete (shape : Shape) (bound : Nat) :
    TakesComplete bound shape.takeMember Written.Stands shape.addMember := by
  intro gathered name tail written rest holds ends _
  obtain ⟨gap, text, isGap, rfl, -, colon⟩ := exists_afterColon holds rest
  rw [takeMember, addMember, colon]
  cases shape.field? name with
  | none =>
    dsimp only
    simp only [bind, Except.bind, skipValue_complete isGap written.wellFormed ends]
    rfl
  | some field =>
    dsimp only
    cases (gathered.lookup name).isSome with
    | true => rfl
    | false =>
      simp only [bind, Except.bind, readScalar_alone field.kind isGap written.wellFormed ends]
      cases readScalar field.kind written.text with
      | error fault => rfl
      | ok read => rfl

/-- **Whatever is taken for a member is written**, and is added to what was gathered. -/
theorem takeMember_sound (shape : Shape) :
    TakesSound shape.takeMember Written.Stands shape.addMember := by
  intro gathered name text more rest taken
  rw [takeMember] at taken
  cases found : shape.field? name with
  | none =>
    simp only [found] at taken
    obtain ⟨behind, colon, given⟩ := bind_eq_ok_iff.mp taken
    obtain ⟨after, skips, same⟩ := bind_eq_ok_iff.mp given
    cases same
    obtain ⟨before, opens, rfl⟩ := afterColon_eq_ok_iff.mp colon
    obtain ⟨gap, written, closes, rfl, wellFormed⟩ := wellFormed_of_skipValue skips
    refine ⟨before ++ ':' :: (gap ++ written), ⟨written, wellFormed⟩, by simp, ?_, ?_⟩
    · exact .colon opens closes rfl
    · exact addMember_unknown found gathered
  | some field =>
    simp only [found] at taken
    split at taken
    · cases taken
    · next fresh =>
      obtain ⟨behind, colon, given⟩ := bind_eq_ok_iff.mp taken
      obtain ⟨⟨scalar, after⟩, reads, same⟩ := bind_eq_ok_iff.mp given
      cases same
      obtain ⟨before, opens, rfl⟩ := afterColon_eq_ok_iff.mp colon
      obtain ⟨gap, written, closes, rfl, spells⟩ := readScalar_sound field.kind _ _ _ reads
      refine ⟨before ++ ':' :: (gap ++ written), ⟨written, spells.isLeaf.wellFormed⟩, by simp,
        ?_, ?_⟩
      · exact .colon opens closes rfl
      · have absent := Option.not_isSome_iff_eq_none.mp fresh
        exact (addMember_known_iff found).mpr
          ⟨lookup_eq_none_iff_not_mem.mp absent, scalar, spells, rfl⟩

end Shape

/-- A whole text is an object of these members. -/
def WrittenObject (text : String) (raw : WrittenMembers) : Prop :=
  ∃ before inside after, text.toList = before ++ '{' :: (inside ++ '}' :: after) ∧
    IsGap before ∧ IsGap after ∧ Listed (SpellsMember Written.Stands) inside raw

/-- **An object is read member by member**, and then the required ones have to be there. -/
theorem Shape.parse_of_object {text : String} {raw : WrittenMembers}
    (object : WrittenObject text raw) (shape : Shape) :
    shape.parse text = raw.foldlM shape.addMember [] >>= shape.complete := by
  obtain ⟨before, inside, after, whole, opens, closes, listed⟩ := object
  have enough : inside.length < (inside ++ '}' :: after).length := by
    rw [List.length_append, List.length_cons]
    omega
  have reads := members_complete (namesComplete_readString _)
    (shape.takeMember_complete inside.length) listed (Nat.le_refl _) enough [] after
  have object : shape.read (before ++ '{' :: (inside ++ '}' :: after)) = do
      let walk ← members readString shape.takeMember (inside ++ '}' :: after).length []
        (inside ++ '}' :: after)
      let gathered ← shape.complete walk.1
      return (gathered, walk.2) := by
    rw [read, skipSpace_append opens]
    rfl
  rw [parse, whole, object, reads]
  simp only [bind, Except.bind]
  cases raw.foldlM shape.addMember [] with
  | error fault => rfl
  | ok gathered =>
    dsimp only [Except.map]
    cases shape.complete gathered with
    | error fault => rfl
    | ok gathered => exact atEnd_eq_ok_iff.mpr ⟨rfl, closes⟩

/-! ## Elements of an array -/

/-- A whole text is an array of these values. -/
def WrittenArray (text : String) (elements : List Written) : Prop :=
  ∃ before inside after, text.toList = before ++ '[' :: (inside ++ ']' :: after) ∧
    IsGap before ∧ IsGap after ∧ Listed Written.Stands inside elements

/-- Values in the order of the declaration fill a record.  Only members that may miss are left
out. -/
inductive Fills : List Field → List Written → Members → Prop where
  | ends {fields : List Field} (mayMiss : ∀ field ∈ fields, field.mayMiss = true) :
      Fills fields [] []
  | next {field : Field} {fields : List Field} {written : Written} {scalar : Scalar}
      {later : List Written} {gathered : Members}
      (spells : SpellsScalar field.kind written.text scalar)
      (behind : Fills fields later gathered) :
      Fills (field :: fields) (written :: later) ((field.name, scalar) :: gathered)

theorem firstRequired_eq_none_iff {fields : List Field} {position : Nat} :
    firstRequired position fields = none ↔ ∀ field ∈ fields, field.mayMiss = true := by
  induction fields generalizing position with
  | nil => simp [firstRequired]
  | cons field later ih =>
    rw [firstRequired, List.forall_mem_cons]
    split
    · next may => exact ih.trans (and_iff_right may).symm
    · next must => simp [must]

namespace Shape

variable {shape : Shape}

/-- Every element but the first one stands behind a comma. -/
def separated : Nat → List Char → List Char
  | 0, text => text
  | _ + 1, text => ',' :: text

theorem readElements_end {gap : List Char} (isGap : IsGap gap) {fields : List Field}
    (mayMiss : ∀ field ∈ fields, field.mayMiss = true) (position : Nat) (rest : List Char) :
    shape.readElements position fields (gap ++ ']' :: rest) = .ok ([], rest) := by
  have closing : skipSpace (gap ++ ']' :: rest) = ']' :: rest := skipSpace_append isGap _
  cases fields with
  | nil =>
    rw [readElements, closing]
    rfl
  | cons field later =>
    rw [readElements, closing, firstRequired_eq_none_iff.mpr mayMiss]
    rfl

/-- An element, which is the member of its field, and the others behind it. -/
def readNext (shape : Shape) (position : Nat) (field : Field) (later : List Field)
    (text : List Char) : Except Fault (Members × List Char) := do
  let (value, rest) ← readScalar field.kind text
  let (gathered, rest) ← shape.readElements (position + 1) later rest
  return ((field.name, value) :: gathered, rest)

theorem readElements_separated {position : Nat} {gap start : List Char} {field : Field}
    {later : List Field} (isGap : IsGap gap) (opens : position = 0 →
      ∃ c rest, skipSpace start = c :: rest ∧ c ≠ ']') :
    shape.readElements position (field :: later) (gap ++ separated position start) =
      shape.readNext position field later (if position = 0 then skipSpace start else start) := by
  cases position with
  | zero =>
    obtain ⟨c, rest, head, bracket⟩ := opens rfl
    rw [readElements, separated, skipSpace_append isGap, if_pos rfl, head]
    split
    · next closing => exact absurd (List.cons.inj closing).1 bracket
    · rfl
  | succ position =>
    rw [readElements, separated, skipSpace_append isGap]
    rfl

/-- One element is read, and the others behind it. -/
theorem readElements_next {position : Nat} {gap before left rest : List Char} {field : Field}
    {later : List Field} {written : Written} {scalar : Scalar} {gathered : Members}
    (isGap : IsGap gap) (opens : IsGap before) (ends : EndsNumber left)
    (spells : SpellsScalar field.kind written.text scalar)
    (behind : shape.readElements (position + 1) later left = .ok (gathered, rest)) :
    shape.readElements position (field :: later)
        (gap ++ separated position (before ++ (written.text ++ left))) =
      .ok ((field.name, scalar) :: gathered, rest) := by
  have next {gap : List Char} (isGap : IsGap gap) :
      shape.readNext position field later (gap ++ (written.text ++ left)) =
        .ok ((field.name, scalar) :: gathered, rest) := by
    rw [readNext, readScalar_alone field.kind isGap written.wellFormed ends,
      readScalar_of_spells spells]
    exact bind_eq_ok_iff.mpr ⟨_, rfl, bind_eq_ok_iff.mpr ⟨_, behind, rfl⟩⟩
  obtain ⟨c, others, same, token, bracket, -⟩ := written.wellFormed.begins
  have head : skipSpace (before ++ (written.text ++ left)) = written.text ++ left := by
    rw [skipSpace_append opens, same, List.cons_append, skipSpace_cons token]
  have first : ∃ c rest, skipSpace (before ++ (written.text ++ left)) = c :: rest ∧ c ≠ ']' :=
    ⟨c, others ++ left, by rw [head, same, List.cons_append], bracket⟩
  rw [readElements_separated isGap fun _ => first, head]
  split
  · exact next isGap_nil
  · exact next opens

/-- **Values that fill a record are read as its members.** -/
theorem readElements_complete {inside : List Char} {elements : List Written}
    (items : Items Written.Stands inside elements) {fields : List Field} {gathered : Members}
    (fills : Fills fields elements gathered) {gap : List Char} (isGap : IsGap gap)
    (position : Nat) (rest : List Char) :
    shape.readElements position fields (gap ++ separated position (inside ++ ']' :: rest)) =
      .ok (gathered, rest) := by
  induction items generalizing fields gathered gap position with
  | @last before _ after written opens stands closes =>
    obtain rfl : written.text = _ := stands
    cases fills with
    | next spells behind =>
      cases behind with
      | ends mayMiss =>
        have finish : shape.readElements (position + 1) _ (after ++ ']' :: rest) =
            .ok ([], rest) := readElements_end closes mayMiss (position + 1) rest
        have ends : EndsNumber (after ++ ']' :: rest) :=
          endsNumber_of_isGap closes (endsNumber_mark (by simp) rest)
        rw [List.append_assoc, List.append_assoc]
        exact readElements_next isGap opens ends spells finish
  | @more before _ after inner written later opens stands closes items ih =>
    obtain rfl : written.text = _ := stands
    cases fills with
    | next spells behind =>
      have others := ih behind closes (position + 1)
      have ends : EndsNumber (after ++ ',' :: (inner ++ ']' :: rest)) :=
        endsNumber_of_isGap closes (endsNumber_mark (by simp) _)
      simp only [List.append_assoc, List.cons_append]
      exact readElements_next isGap opens ends spells others

/-- **What is read as members are values that fill a record**, none of them or one after the
other. -/
theorem readElements_sound {position : Nat} {fields : List Field} {text rest : List Char}
    {gathered : Members}
    (reads : shape.readElements position fields text = .ok (gathered, rest)) :
    (∃ gap, IsGap gap ∧ text = gap ++ ']' :: rest ∧ Fills fields [] gathered) ∨
      ∃ gap inside elements, IsGap gap ∧
        text = gap ++ separated position (inside ++ ']' :: rest) ∧
        Items Written.Stands inside elements ∧ Fills fields elements gathered := by
  induction fields generalizing position text gathered with
  | nil =>
    obtain ⟨gap, isGap, whole⟩ := exists_gap text
    rw [readElements] at reads
    split at reads
    · next closing =>
      cases reads
      exact .inl ⟨gap, isGap, closing ▸ whole, .ends (List.forall_mem_nil _)⟩
    · cases reads
  | cons field later ih =>
    obtain ⟨gap, isGap, whole⟩ := exists_gap text
    rw [readElements] at reads
    split at reads
    · next closing =>
      split at reads
      · cases reads
      · next none =>
        cases reads
        exact .inl ⟨gap, isGap, closing ▸ whole, .ends (firstRequired_eq_none_iff.mp none)⟩
    · next other =>
      obtain ⟨start, same, next⟩ : ∃ start, skipSpace text = separated position start ∧
          shape.readNext position field later start = .ok (gathered, rest) := by
        cases position with
        | zero => exact ⟨skipSpace text, rfl, reads⟩
        | succ position =>
          dsimp only at reads
          rw [if_neg (Nat.succ_ne_zero position)] at reads
          split at reads
          · next start comma => exact ⟨start, comma, reads⟩
          · cases reads
      obtain ⟨⟨scalar, left⟩, first, given⟩ := bind_eq_ok_iff.mp next
      obtain ⟨⟨others, _⟩, behind, given⟩ := bind_eq_ok_iff.mp given
      cases given
      obtain ⟨before, spelled, opens, rfl, spells⟩ := readScalar_sound field.kind _ _ _ first
      have wellFormed := spells.isLeaf.wellFormed
      right
      rcases ih behind with
        ⟨after, closes, rfl, fills⟩ | ⟨after, inside, elements, closes, rfl, items, fills⟩
      · refine ⟨gap, _, [⟨spelled, wellFormed⟩], isGap, ?_, .last opens rfl closes,
          .next spells fills⟩
        rw [whole, same]
        simp
      · refine ⟨gap, _, ⟨spelled, wellFormed⟩ :: elements, isGap, ?_,
          .more opens rfl closes items, .next spells fills⟩
        rw [whole, same]
        simp [separated]

/-- **An array is read as the record that it fills.** -/
theorem parse_of_array {text : String} {elements : List Written}
    (array : WrittenArray text elements) {gathered : Members}
    (fills : Fills shape.fields elements gathered) : shape.parse text = .ok gathered := by
  obtain ⟨before, inside, after, whole, opens, closes, listed⟩ := array
  have reads {fields : List Field} (fills : Fills fields elements gathered) :
      shape.readElements 0 fields (inside ++ ']' :: after) = .ok (gathered, after) := by
    cases listed with
    | none isGap =>
      cases fills with
      | ends mayMiss => exact readElements_end isGap mayMiss 0 after
    | some items => exact readElements_complete items fills isGap_nil 0 after
  have bracket : shape.read (before ++ '[' :: (inside ++ ']' :: after)) =
      shape.readElements 0 shape.fields (inside ++ ']' :: after) := by
    rw [read, skipSpace_append opens]
    rfl
  rw [parse, whole, bracket, reads fills]
  exact atEnd_eq_ok_iff.mpr ⟨rfl, closes⟩

/-! ## Whole texts -/

/-- A text describes a record: as an object in which each known name stands at most once, with a
value of its kind, and every required one is there, or as an array that fills the record. -/
inductive Describes (shape : Shape) (text : String) (gathered : Members) : Prop where
  | object {raw : WrittenMembers} (object : WrittenObject text raw)
      (gathers : shape.Gathers raw gathered) (once : (gathered.map Prod.fst).Nodup)
      (complete : ∀ field ∈ shape.fields, field.mayMiss = false →
        gathered.lookup field.name ≠ none)
  | array {elements : List Written} (array : WrittenArray text elements)
      (fills : Fills shape.fields elements gathered)

/-- **A text is read as the record that it describes**, and as none if it describes none. -/
theorem parse_eq_ok_iff {text : String} {gathered : Members} :
    shape.parse text = .ok gathered ↔ shape.Describes text gathered := by
  constructor
  · intro reads
    obtain ⟨⟨_, rest⟩, inner, ends⟩ := bind_eq_ok_iff.mp reads
    obtain ⟨rfl, closes⟩ := atEnd_eq_ok_iff.mp ends
    obtain ⟨before, opens, whole⟩ := exists_gap text.toList
    rw [read] at inner
    split at inner
    · next later brace =>
      obtain ⟨⟨gathered, _⟩, walk, given⟩ := bind_eq_ok_iff.mp inner
      obtain ⟨_, complete, same⟩ := bind_eq_ok_iff.mp given
      cases same
      obtain ⟨rfl, complete⟩ := complete_eq_ok_iff.mp complete
      obtain ⟨inside, raw, rfl, listed, folded⟩ :=
        members_sound (namesSound_readString _) shape.takeMember_sound walk
      obtain ⟨gathers, once⟩ := foldlM_addMember_nil_iff.mp folded
      exact .object ⟨before, inside, rest, brace ▸ whole, opens, closes, listed⟩ gathers once
        complete
    · next later bracket =>
      rcases readElements_sound inner with
        ⟨gap, isGap, rfl, fills⟩ | ⟨gap, inside, elements, isGap, rfl, items, fills⟩
      · exact .array ⟨before, gap, rest, bracket ▸ whole, opens, closes, .none isGap⟩ fills
      · refine .array ⟨before, gap ++ inside, rest, ?_, opens, closes,
          .some (items.behind_gap isGap)⟩ fills
        rw [whole, bracket, separated, List.append_assoc]
    · exact absurd inner complain_ne_ok
  · intro describes
    cases describes with
    | object object gathers once complete =>
      rw [parse_of_object object, foldlM_addMember_nil_iff.mpr ⟨gathers, once⟩]
      exact complete_eq_ok_iff.mpr ⟨rfl, complete⟩
    | array array fills => exact parse_of_array array fills

end Shape

/-! ## Writing -/

/-- A member has the name of a field and holds what the field takes. -/
def Field.Holds (field : Field) (member : String × Scalar) : Prop :=
  member.1 = field.name ∧ SpellsScalar field.kind member.2.write member.2

theorem Field.holds_text (name : String) (mayMiss : Bool) (value : String) :
    Field.Holds ⟨name, .text, mayMiss⟩ (name, .text value) :=
  ⟨rfl, .text (spellsText_write value.toList)⟩

theorem Field.holds_count (name : String) (mayMiss : Bool) (count : UInt64) :
    Field.Holds ⟨name, .unsigned 64, mayMiss⟩ (name, .count count.toNat) := by
  have fits : Decimal.value (Decimal.digits count.toNat) < Nat.pow 2 64 := by
    rw [Decimal.value_digits]
    exact count.toNat_lt
  have spells := SpellsScalar.count (isWhole_digits count.toNat) fits fits
  rw [Decimal.value_digits] at spells
  exact ⟨rfl, spells⟩

theorem spellsMember_written (name : String) (written : Written) :
    SpellsMember Written.Stands (writeString name.toList ++ ':' :: written.text) (name, written) :=
  spellsMember_write name rfl

/-- What is written with single commas between the members is an object of them. -/
theorem writtenObject_intercalate {text : String} {texts : List (List Char)}
    {raw : WrittenMembers} (each : List.Forall₂ (SpellsMember Written.Stands) texts raw)
    (whole : text.toList = '{' :: [','].intercalate texts ++ ['}']) : WrittenObject text raw :=
  ⟨[], _, [], whole, isGap_nil, isGap_nil, listed_intercalate each⟩

namespace Shape

variable {shape : Shape} {all : Members}

/-- All members stand in the order of the declaration. -/
def Holds (shape : Shape) (all : Members) : Prop :=
  List.Forall₂ Field.Holds shape.fields all

theorem Holds.names (holds : shape.Holds all) :
    all.map Prod.fst = shape.fields.map Field.name := by
  have each {fields : List Field} {members : Members}
      (holds : List.Forall₂ Field.Holds fields members) :
      members.map Prod.fst = fields.map Field.name := by
    induction holds with
    | nil => rfl
    | cons first _ ih => rw [List.map_cons, List.map_cons, first.1, ih]
  exact each holds

/-- A field is found under its name, if no other one has it. -/
theorem field?_of_mem (distinct : (shape.fields.map Field.name).Nodup) {field : Field}
    (member : field ∈ shape.fields) : shape.field? field.name = some field := by
  have find {fields : List Field} (distinct : (fields.map Field.name).Nodup)
      (member : field ∈ fields) :
      (fields.find? fun other => other.name == field.name) = some field := by
    induction fields with
    | nil => cases member
    | cons first later ih =>
      obtain ⟨apart, distinct⟩ := List.nodup_cons.mp distinct
      rcases List.mem_cons.mp member with rfl | behind
      · exact List.find?_cons_of_pos (beq_self_eq_true _)
      · have other : (first.name == field.name) = false := by
          rw [beq_eq_false_iff_ne]
          intro same
          exact apart (same ▸ List.mem_map_of_mem behind)
        simp only [List.find?_cons, other]
        exact ih distinct behind
  exact find distinct member

/-- Each member is written under its name, and gathered from there. -/
theorem exists_written {fields : List Field} (holds : List.Forall₂ Field.Holds fields all)
    (known : ∀ field ∈ fields, shape.field? field.name = some field) :
    ∃ raw, List.Forall₂ (SpellsMember Written.Stands) (all.map writeMember) raw ∧
      shape.Gathers raw all := by
  induction holds with
  | nil => exact ⟨[], .nil, .nil⟩
  | @cons field member _ _ first _ ih =>
    obtain ⟨here, others⟩ := List.forall_mem_cons.mp known
    obtain ⟨raw, spelled, gathers⟩ := ih others
    obtain ⟨name, scalar⟩ := member
    obtain ⟨rfl, spells⟩ : name = field.name ∧ SpellsScalar field.kind scalar.write scalar := first
    let written : Written := ⟨scalar.write, spells.isLeaf.wellFormed⟩
    refine ⟨(field.name, written) :: raw, ?_, ?_⟩
    · exact .cons (spellsMember_written field.name written) spelled
    · exact .known here spells gathers

/-- **What is written for members describes them.** -/
theorem Holds.describes (holds : shape.Holds all)
    (distinct : (shape.fields.map Field.name).Nodup) : shape.Describes all.write all := by
  obtain ⟨raw, spelled, gathers⟩ := exists_written holds fun _ => field?_of_mem distinct
  have whole : all.write.toList = '{' :: [','].intercalate (all.map writeMember) ++ ['}'] := by
    rw [Members.write, String.toList_ofList]
  refine .object (writtenObject_intercalate spelled whole) gathers (holds.names ▸ distinct) ?_
  intro field member _ absent
  rw [lookup_eq_none_iff_not_mem, holds.names] at absent
  exact absent (List.mem_map_of_mem member)

end Shape

end SealedCredentials.Json
