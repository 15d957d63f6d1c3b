import SealedCredentials.Proofs.Json.Scalar

/-!
# What is gathered from the members of an object

Members of a record are written with a name and a value, and so are members that the record does not
know.  What is gathered from them is what each known member holds, in the order of the text
(`Shape.Gathers`).  They can be gathered if each known name stands there at most once and each known
member has a value of its kind (`Shape.proper_iff`); adding them one after the other comes to the
same (`Shape.foldlM_addMember_of_proper`).  The order of the known members, and whatever stands
between them, decides nothing (`Shape.Gathers.lookup_congr`).
-/

set_option autoImplicit false

namespace SealedCredentials.Json

/-! ## Values as they are written -/

/-- A value as it stands in a text. -/
structure Written where
  text : List Char
  wellFormed : WellFormed text

/-- A value stands in a text as it is written. -/
def Written.Stands (text : List Char) (written : Written) : Prop := written.text = text

/-- The values of an object by name, as they are written. -/
abbrev WrittenMembers := List (String × Written)

namespace Shape

variable {shape : Shape} {raw : WrittenMembers} {gathered : Members}

/-! ## Members of an object -/

/-- The members that the record knows. -/
def known (shape : Shape) (raw : WrittenMembers) : WrittenMembers :=
  raw.filter fun member => (shape.field? member.1).isSome

/-- What is gathered from the members of an object: what each known one holds. -/
inductive Gathers (shape : Shape) : WrittenMembers → Members → Prop where
  | nil : Gathers shape [] []
  | known {name : String} {field : Field} {written : Written} {scalar : Scalar}
      {raw : WrittenMembers} {gathered : Members} (found : shape.field? name = some field)
      (spells : SpellsScalar field.kind written.text scalar) (behind : Gathers shape raw gathered) :
      Gathers shape ((name, written) :: raw) ((name, scalar) :: gathered)
  | unknown {name : String} {written : Written} {raw : WrittenMembers} {gathered : Members}
      (unknown : shape.field? name = none) (behind : Gathers shape raw gathered) :
      Gathers shape ((name, written) :: raw) gathered

/-- Each known name stands there at most once, with a value of its kind. -/
structure Proper (shape : Shape) (raw : WrittenMembers) : Prop where
  once : ((shape.known raw).map Prod.fst).Nodup
  typed : ∀ member ∈ raw, ∀ field, shape.field? member.1 = some field →
    ∃ scalar, SpellsScalar field.kind member.2.text scalar

theorem Gathers.names (gathers : shape.Gathers raw gathered) :
    gathered.map Prod.fst = (shape.known raw).map Prod.fst := by
  induction gathers with
  | nil => rfl
  | known found _ _ ih => simp [Shape.known, found, ih]
  | unknown unknown _ ih => simpa [Shape.known, unknown] using ih

theorem Gathers.typed (gathers : shape.Gathers raw gathered) :
    ∀ member ∈ raw, ∀ field, shape.field? member.1 = some field →
      ∃ scalar, SpellsScalar field.kind member.2.text scalar := by
  induction gathers with
  | nil =>
    intro member absent
    cases absent
  | known found spells _ ih =>
    refine List.forall_mem_cons.mpr ⟨fun field also => ?_, ih⟩
    cases found.symm.trans also
    exact ⟨_, spells⟩
  | unknown unknown _ ih =>
    refine List.forall_mem_cons.mpr ⟨fun field also => ?_, ih⟩
    cases unknown.symm.trans also

/-- Members that have their types can be gathered. -/
theorem exists_gathers (typed : ∀ member ∈ raw, ∀ field, shape.field? member.1 = some field →
    ∃ scalar, SpellsScalar field.kind member.2.text scalar) :
    ∃ gathered, shape.Gathers raw gathered := by
  induction raw with
  | nil => exact ⟨[], .nil⟩
  | cons member later ih =>
    obtain ⟨first, others⟩ := List.forall_mem_cons.mp typed
    obtain ⟨gathered, behind⟩ := ih others
    cases found : shape.field? member.1 with
    | none => exact ⟨gathered, .unknown found behind⟩
    | some field =>
      obtain ⟨scalar, spells⟩ := first field found
      exact ⟨(member.1, scalar) :: gathered, .known found spells behind⟩

theorem proper_iff :
    shape.Proper raw ↔ ∃ gathered, shape.Gathers raw gathered ∧ (gathered.map Prod.fst).Nodup := by
  constructor
  · rintro ⟨once, typed⟩
    obtain ⟨gathered, gathers⟩ := exists_gathers typed
    exact ⟨gathered, gathers, gathers.names ▸ once⟩
  · rintro ⟨gathered, gathers, distinct⟩
    exact ⟨gathers.names ▸ distinct, gathers.typed⟩

/-- What is gathered under a known name is what is written under it. -/
theorem Gathers.mem_iff (gathers : shape.Gathers raw gathered) {name : String} {scalar : Scalar} :
    (name, scalar) ∈ gathered ↔ ∃ written field, (name, written) ∈ raw ∧
      shape.field? name = some field ∧ SpellsScalar field.kind written.text scalar := by
  induction gathers with
  | nil => simp
  | @known other field written held raw gathered found spells _ ih =>
    constructor
    · intro member
      rcases List.mem_cons.mp member with here | behind
      · cases here
        exact ⟨written, field, List.mem_cons_self, found, spells⟩
      · obtain ⟨written, field, member, found, spells⟩ := ih.mp behind
        exact ⟨written, field, List.mem_cons_of_mem _ member, found, spells⟩
    · rintro ⟨also, same, member, alike, spelled⟩
      rcases List.mem_cons.mp member with here | behind
      · cases here
        cases found.symm.trans alike
        rw [spells.unique spelled]
        exact List.mem_cons_self
      · exact List.mem_cons_of_mem _ (ih.mpr ⟨also, same, behind, alike, spelled⟩)
  | unknown unknown _ ih =>
    refine ih.trans ⟨?_, ?_⟩
    · rintro ⟨written, field, member, both⟩
      exact ⟨written, field, List.mem_cons_of_mem _ member, both⟩
    · rintro ⟨written, field, member, found, spells⟩
      rcases List.mem_cons.mp member with here | behind
      · cases here
        cases unknown.symm.trans found
      · exact ⟨written, field, behind, found, spells⟩

/-! ### Order -/

theorem mem_known_iff {member : String × Written} {field : Field}
    (found : shape.field? member.1 = some field) : member ∈ shape.known raw ↔ member ∈ raw := by
  rw [known, List.mem_filter, found]
  exact and_iff_left rfl

/-- The order of the known members, and whatever stands between them, decides nothing. -/
theorem proper_congr {more : WrittenMembers}
    (order : (shape.known raw).Perm (shape.known more)) :
    shape.Proper raw ↔ shape.Proper more := by
  have carries {raw more : WrittenMembers} (order : (shape.known raw).Perm (shape.known more))
      (proper : shape.Proper raw) : shape.Proper more := by
    refine ⟨(order.map Prod.fst).nodup_iff.mp proper.once, fun member present field found => ?_⟩
    have there : member ∈ raw :=
      (mem_known_iff found).mp (order.mem_iff.mpr ((mem_known_iff found).mpr present))
    exact proper.typed member there field found
  exact ⟨carries order, carries order.symm⟩

theorem Gathers.lookup_congr {more : WrittenMembers} {others : Members}
    (gathers : shape.Gathers raw gathered) (also : shape.Gathers more others)
    (once : ((shape.known raw).map Prod.fst).Nodup)
    (order : (shape.known raw).Perm (shape.known more)) (name : String) :
    gathered.lookup name = others.lookup name := by
  have distinct : (gathered.map Prod.fst).Nodup := gathers.names ▸ once
  have apart : (others.map Prod.fst).Nodup :=
    also.names ▸ (order.map Prod.fst).nodup_iff.mp once
  apply Option.ext
  intro scalar
  rw [lookup_eq_some_iff_mem distinct, lookup_eq_some_iff_mem apart, gathers.mem_iff, also.mem_iff]
  refine exists_congr fun written => exists_congr fun field => and_congr_left ?_
  rintro ⟨found, -⟩
  have here : (name, written) ∈ shape.known raw ↔ (name, written) ∈ raw := mem_known_iff found
  have there : (name, written) ∈ shape.known more ↔ (name, written) ∈ more := mem_known_iff found
  exact here.symm.trans (order.mem_iff.trans there)

/-! ### Gathering -/

/-- An object with one more member, if it can be taken. -/
def addMember (shape : Shape) (gathered : Members) (member : String × Written) :
    Except Fault Members :=
  match shape.field? member.1 with
  | some field =>
    if (gathered.lookup member.1).isSome then .error (.duplicate member.1)
    else do
      let (value, _) ← readScalar field.kind member.2.text
      return gathered ++ [(member.1, value)]
  | none => .ok gathered

theorem addMember_unknown {member : String × Written} (unknown : shape.field? member.1 = none)
    (gathered : Members) : shape.addMember gathered member = .ok gathered := by
  rw [addMember, unknown]

theorem addMember_known_iff {member : String × Written} {field : Field} {more : Members}
    (found : shape.field? member.1 = some field) :
    shape.addMember gathered member = .ok more ↔ member.1 ∉ gathered.map Prod.fst ∧
      ∃ scalar, SpellsScalar field.kind member.2.text scalar ∧
        more = gathered ++ [(member.1, scalar)] := by
  rw [addMember, found, ← lookup_eq_none_iff_not_mem]
  cases gathered.lookup member.1 with
  | some held => simp
  | none =>
    simp only [Option.isSome_none, Bool.false_eq_true, if_false, true_and]
    constructor
    · intro added
      obtain ⟨⟨scalar, rest⟩, reads, same⟩ := bind_eq_ok_iff.mp added
      cases same
      exact ⟨scalar, ((readScalar_eq_ok_iff member.2.wellFormed).mp reads).1, rfl⟩
    · rintro ⟨scalar, spells, rfl⟩
      exact bind_eq_ok_iff.mpr ⟨(scalar, []), readScalar_of_spells spells, rfl⟩

theorem nodup_names_append {name : String} (scalar : Scalar) :
    ((gathered ++ [(name, scalar)]).map Prod.fst).Nodup ↔
      name ∉ gathered.map Prod.fst ∧ (gathered.map Prod.fst).Nodup := by
  rw [List.map_append, List.map_singleton, (List.perm_append_singleton _ _).nodup_iff,
    List.nodup_cons]

/-- Adding members one after the other gathers what they hold, as long as no name comes again. -/
theorem foldlM_addMember_iff {start : Members} (distinct : (start.map Prod.fst).Nodup) :
    raw.foldlM shape.addMember start = .ok gathered ↔
      ∃ more, shape.Gathers raw more ∧ gathered = start ++ more ∧
        (gathered.map Prod.fst).Nodup := by
  induction raw generalizing start with
  | nil =>
    constructor
    · rintro ⟨⟩
      exact ⟨[], .nil, (List.append_nil _).symm, distinct⟩
    · rintro ⟨more, gathers, rfl, -⟩
      cases gathers
      rw [List.append_nil]
      rfl
  | cons member later ih =>
    rw [List.foldlM_cons]
    cases found : shape.field? member.1 with
    | none =>
      rw [addMember_unknown found]
      refine (ih distinct).trans ?_
      constructor
      · rintro ⟨more, gathers, both⟩
        exact ⟨more, .unknown found gathers, both⟩
      · rintro ⟨more, gathers, both⟩
        cases gathers with
        | known also => cases found.symm.trans also
        | unknown _ behind => exact ⟨more, behind, both⟩
    | some field =>
      rw [bind_eq_ok_iff]
      constructor
      · rintro ⟨next, added, rest⟩
        obtain ⟨fresh, scalar, spells, rfl⟩ := (addMember_known_iff found).mp added
        have longer := (nodup_names_append scalar).mpr ⟨fresh, distinct⟩
        obtain ⟨more, gathers, rfl, all⟩ := (ih longer).mp rest
        exact ⟨(member.1, scalar) :: more, .known found spells gathers, by simp, all⟩
      · rintro ⟨more, gathers, rfl, all⟩
        cases gathers with
        | @known name _ _ scalar _ more also spells behind =>
          cases found.symm.trans also
          have regrouped := List.append_cons start (name, scalar) more
          have longer : ((start ++ [(name, scalar)]).map Prod.fst).Nodup := by
            rw [regrouped, List.map_append] at all
            exact (List.nodup_append.mp all).1
          have added := (addMember_known_iff found).mpr
            ⟨((nodup_names_append scalar).mp longer).1, scalar, spells, rfl⟩
          exact ⟨_, added, (ih longer).mpr ⟨more, behind, regrouped, all⟩⟩
        | unknown unknown => cases found.symm.trans unknown

theorem foldlM_addMember_nil_iff :
    raw.foldlM shape.addMember [] = .ok gathered ↔
      shape.Gathers raw gathered ∧ (gathered.map Prod.fst).Nodup := by
  have distinct : (([] : Members).map Prod.fst).Nodup := List.nodup_nil
  rw [foldlM_addMember_iff distinct]
  constructor
  · rintro ⟨more, gathers, rfl, once⟩
    exact ⟨gathers, once⟩
  · rintro ⟨gathers, once⟩
    exact ⟨gathered, gathers, rfl, once⟩

/-- **An object in which each known name stands at most once, with a value of its kind, is gathered
from its members, and no other is.** -/
theorem foldlM_addMember_of_proper :
    (shape.Proper raw → ∃ gathered, raw.foldlM shape.addMember [] = .ok gathered) ∧
      (¬shape.Proper raw → ∃ fault, raw.foldlM shape.addMember [] = .error fault) := by
  constructor
  · intro proper
    obtain ⟨gathered, both⟩ := proper_iff.mp proper
    exact ⟨gathered, foldlM_addMember_nil_iff.mpr both⟩
  · intro improper
    cases folded : raw.foldlM shape.addMember [] with
    | error fault => exact ⟨fault, rfl⟩
    | ok gathered =>
      exact absurd (proper_iff.mpr ⟨gathered, foldlM_addMember_nil_iff.mp folded⟩) improper

end Shape

end SealedCredentials.Json
