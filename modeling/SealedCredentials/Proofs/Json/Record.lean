import SealedCredentials.Json.Record
import SealedCredentials.Proofs.Json.Reader
import Mathlib.Data.List.Forall2
import Mathlib.Data.List.Induction

/-!
# What objects and records hold

An object holds for each name what its last member of this name holds, and each name once
(`lookup_gather_append`, `gather_eq_singleton_iff`).  A record is read from an object if every known
member that is there has its type and every required one is there (`Shape.takes_of_ofValue`,
`Shape.exists_ofValue`).  What is written for a record is an object of its members (`spells_write`).
-/

set_option autoImplicit false

namespace SealedCredentials.Json

/-! ## Objects -/

section Lookup

variable {α : Type} {name other : String}

/-- The first member counts if it has the name, and else the others. -/
theorem lookup_cons (name : String) (a : α) (entries : List (String × α)) (other : String) :
    ((name, a) :: entries).lookup other =
      if other = name then some a else entries.lookup other := by
  rw [List.lookup_cons]
  by_cases same : other = name
  · rw [if_pos same, beq_iff_eq.mpr same]
  · rw [if_neg same, beq_eq_false_iff_ne.mpr same]

theorem lookup_cons_of_ne (different : name ≠ other) (a : α) (entries : List (String × α)) :
    ((other, a) :: entries).lookup name = entries.lookup name := by
  rw [lookup_cons, if_neg different]

theorem lookup_eq_none_iff_not_mem {entries : List (String × α)} :
    entries.lookup name = none ↔ name ∉ entries.map Prod.fst := by
  rw [List.lookup_eq_none_iff, List.mem_map]
  constructor
  · rintro others ⟨entry, member, rfl⟩
    exact absurd (others entry member) (by simp)
  · intro absent entry member
    rw [bne_iff_ne]
    rintro rfl
    exact absent ⟨entry, member, rfl⟩

/-- Of members of different names, one that is there is found. -/
theorem lookup_eq_some_iff_mem {entries : List (String × α)}
    (distinct : (entries.map Prod.fst).Nodup) {a : α} :
    entries.lookup name = some a ↔ (name, a) ∈ entries := by
  induction entries with
  | nil => simp
  | cons entry later ih =>
    obtain ⟨first, held⟩ := entry
    obtain ⟨absent, distinct⟩ := List.nodup_cons.mp distinct
    rw [lookup_cons, List.mem_cons, Prod.mk.injEq, ← ih distinct]
    by_cases here : name = first
    · have nothing := lookup_eq_none_iff_not_mem.mpr absent
      simp [here, nothing, eq_comm]
    · simp [here]

/-- Of members of different names, the same ones are found in any order. -/
theorem lookup_eq_of_perm {entries more : List (String × α)} (order : entries.Perm more)
    (distinct : (entries.map Prod.fst).Nodup) (name : String) :
    entries.lookup name = more.lookup name := by
  have also : (more.map Prod.fst).Nodup := (order.map Prod.fst).nodup_iff.mp distinct
  apply Option.ext
  intro a
  rw [lookup_eq_some_iff_mem distinct, lookup_eq_some_iff_mem also, order.mem_iff]

end Lookup

namespace Members

variable {gathered : Members} {name : String}

theorem text_of_lookup {value : String} (found : gathered.lookup name = some (.text value))
    (standard : String) : gathered.text name standard = value := by
  rw [text, found]

theorem count_of_lookup {value : Nat} (found : gathered.lookup name = some (.count value))
    (standard : Nat) : gathered.count name standard = value := by
  rw [count, found]

theorem text_of_absent (absent : gathered.lookup name = none) (standard : String) :
    gathered.text name standard = standard := by
  rw [text, absent]

theorem count_of_absent (absent : gathered.lookup name = none) (standard : Nat) :
    gathered.count name standard = standard := by
  rw [count, absent]

end Members

/-- A member that is put in is found under its name, and hides nothing of other names. -/
theorem lookup_insertMember (name : String) (value : Value) (entries : List (String × Value))
    (other : String) :
    (insertMember name value entries).lookup other =
      if other = name then some value else entries.lookup other := by
  induction entries with
  | nil => rw [insertMember, lookup_cons]
  | cons entry later ih =>
    obtain ⟨first, kept⟩ := entry
    rw [insertMember]
    by_cases replaced : name = first
    · rw [if_pos replaced, lookup_cons, lookup_cons, ← replaced]
      by_cases here : other = name
      · rw [if_pos here, if_pos here]
      · rw [if_neg here, if_neg here, if_neg here]
    · by_cases before : name < first
      · rw [if_neg replaced, if_pos before, lookup_cons]
      · rw [if_neg replaced, if_neg before, lookup_cons, lookup_cons, ih]
        by_cases here : other = first
        · rw [if_pos here, if_pos here, if_neg (here ▸ Ne.symm replaced)]
        · rw [if_neg here, if_neg here]

/-- Whatever is there after a member was put in is the member or was there before. -/
theorem mem_of_mem_insertMember {name : String} {value : Value} {entries : List (String × Value)}
    {entry : String × Value} (member : entry ∈ insertMember name value entries) :
    entry = (name, value) ∨ entry ∈ entries := by
  induction entries with
  | nil => exact .inl (List.mem_singleton.mp member)
  | cons first later ih =>
    rw [insertMember] at member
    split at member
    · exact (List.mem_cons.mp member).imp_right (List.mem_cons_of_mem first)
    · split at member
      · exact List.mem_cons.mp member
      · rcases List.mem_cons.mp member with rfl | behind
        · exact .inr List.mem_cons_self
        · exact (ih behind).imp_right (List.mem_cons_of_mem first)

/-- The names stand in order, each once. -/
def IsOrdered (entries : List (String × Value)) : Prop :=
  entries.Pairwise fun entry later => entry.1 < later.1

theorem isOrdered_insertMember {entries : List (String × Value)} (ordered : IsOrdered entries)
    (name : String) (value : Value) : IsOrdered (insertMember name value entries) := by
  induction entries with
  | nil => exact List.pairwise_singleton _ _
  | cons first later ih =>
    obtain ⟨least, rest⟩ := List.pairwise_cons.mp ordered
    rw [insertMember]
    by_cases replaced : name = first.1
    · rw [if_pos replaced]
      exact List.pairwise_cons.mpr ⟨fun entry member => replaced ▸ least entry member, rest⟩
    · rw [if_neg replaced]
      by_cases before : name < first.1
      · rw [if_pos before]
        refine List.pairwise_cons.mpr ⟨fun entry member => ?_, ordered⟩
        rcases List.mem_cons.mp member with rfl | behind
        · exact before
        · exact String.lt_trans before (least entry behind)
      · rw [if_neg before]
        refine List.pairwise_cons.mpr ⟨fun entry member => ?_, ih rest⟩
        rcases mem_of_mem_insertMember member with rfl | behind
        · have after : first.1 ≤ name := String.not_lt.mp before
          exact String.not_le.mp fun back => replaced (String.le_antisymm back after)
        · exact least entry behind

/-! ### Members that were gathered -/

theorem gather_append (raw : List (String × Value)) (member : String × Value) :
    gather (raw ++ [member]) = insertMember member.1 member.2 (gather raw) := by
  rw [gather, List.foldl_append]
  rfl

theorem isOrdered_gather (raw : List (String × Value)) : IsOrdered (gather raw) := by
  induction raw using List.reverseRecOn with
  | nil => exact List.Pairwise.nil
  | append_singleton raw member ih =>
    rw [gather_append]
    exact isOrdered_insertMember ih _ _

theorem mem_of_mem_gather {raw : List (String × Value)} {entry : String × Value}
    (member : entry ∈ gather raw) : entry ∈ raw := by
  induction raw using List.reverseRecOn with
  | nil => exact member
  | append_singleton raw last ih =>
    rw [gather_append] at member
    rcases mem_of_mem_insertMember member with rfl | before
    · exact List.mem_append_right _ (List.mem_singleton_self _)
    · exact List.mem_append_left _ (ih before)

/-- **The last member of a name counts.** -/
theorem lookup_gather_append (raw : List (String × Value)) (member : String × Value)
    (name : String) :
    (gather (raw ++ [member])).lookup name =
      if name = member.1 then some member.2 else (gather raw).lookup name := by
  rw [gather_append, lookup_insertMember]

/-- Every name is there. -/
theorem exists_lookup_gather {raw : List (String × Value)} {entry : String × Value}
    (member : entry ∈ raw) : ∃ value, (gather raw).lookup entry.1 = some value := by
  induction raw using List.reverseRecOn with
  | nil => cases member
  | append_singleton raw last ih =>
    rw [lookup_gather_append]
    split
    · exact ⟨_, rfl⟩
    · next different =>
      rcases List.mem_append.mp member with before | here
      · exact ih before
      · exact absurd (congrArg Prod.fst (List.mem_singleton.mp here)) different

/-- Members that stand in order and have all one name are one member. -/
theorem eq_singleton_of_isOrdered {entries : List (String × Value)} (ordered : IsOrdered entries)
    {name : String} (named : ∀ entry ∈ entries, entry.1 = name) {value : Value}
    (found : entries.lookup name = some value) : entries = [(name, value)] := by
  rcases entries with _ | ⟨first, _ | ⟨second, others⟩⟩
  · cases found
  · obtain ⟨called, held⟩ := first
    obtain rfl : called = name := named (called, held) (by simp)
    rw [List.lookup_cons_self] at found
    rw [Option.some.inj found]
  -- of two members, the second would have to stand behind itself
  · have less := (List.pairwise_cons.mp ordered).1 second (by simp)
    rw [named first (by simp), named second (by simp)] at less
    exact absurd less (String.lt_irrefl name)

/-- **One member is gathered from members of one name, and it is the last of them.** -/
theorem gather_eq_singleton_iff {raw : List (String × Value)} {name : String} {value : Value} :
    gather raw = [(name, value)] ↔
      ∃ earlier, raw = earlier ++ [(name, value)] ∧ ∀ entry ∈ earlier, entry.1 = name := by
  constructor
  · intro single
    have named : ∀ entry ∈ raw, entry.1 = name := by
      intro entry member
      obtain ⟨held, found⟩ := exists_lookup_gather member
      rw [single] at found
      by_contra different
      rw [lookup_cons_of_ne different] at found
      cases found
    rcases List.eq_nil_or_concat raw with rfl | ⟨earlier, last, rfl⟩
    · cases single
    · rw [List.concat_eq_append] at named single
      have found := lookup_gather_append earlier last name
      have same : last.1 = name := named last (by simp)
      rw [single, List.lookup_cons_self, if_pos same.symm] at found
      refine ⟨earlier, ?_, fun entry member => named entry (List.mem_append_left _ member)⟩
      rw [List.concat_eq_append, ← same, Option.some.inj found]
  · rintro ⟨earlier, rfl, named⟩
    refine eq_singleton_of_isOrdered (isOrdered_gather _) (fun entry member => ?_) ?_
    · rcases List.mem_append.mp (mem_of_mem_gather member) with before | here
      · exact named entry before
      · rw [List.mem_singleton.mp here]
    · rw [lookup_gather_append, if_pos rfl]

/-- In an object whose names stand in order, a member is found under its name. -/
theorem lookup_of_mem {entries : List (String × Value)} (ordered : IsOrdered entries)
    {entry : String × Value} (member : entry ∈ entries) :
    entries.lookup entry.1 = some entry.2 := by
  have distinct : (entries.map Prod.fst).Nodup := by
    rw [List.Nodup, List.pairwise_map]
    refine ordered.imp ?_
    intro entry other less same
    exact String.lt_irrefl other.1 (same ▸ less)
  exact (lookup_eq_some_iff_mem distinct).mpr member

/-- Members of different names are all found. -/
theorem lookup_gather_of_nodup {raw : List (String × Value)}
    (distinct : (raw.map Prod.fst).Nodup) (name : String) :
    (gather raw).lookup name = raw.lookup name := by
  induction raw using List.reverseRecOn with
  | nil => rfl
  | append_singleton raw last ih =>
    rw [List.map_append, List.nodup_append] at distinct
    obtain ⟨before, -, apart⟩ := distinct
    rw [lookup_gather_append, ih before, List.lookup_append]
    split
    · next same =>
      have absent : raw.lookup name = none :=
        lookup_eq_none_iff_not_mem.mpr fun member => apart name member last.1 (by simp) same
      rw [absent, Option.none_or, same, List.lookup_cons_self]
    · next different =>
      rw [lookup_cons_of_ne different, List.lookup_nil, Option.or_none]

/-- The names of an object that is spelled stand in order. -/
theorem isOrdered_of_spells {depth : Nat} {spelled : List Char} {entries : List (String × Value)}
    (spells : Spells depth spelled (.object entries)) : IsOrdered entries := by
  cases depth with
  | zero => cases spells
  | succ depth =>
    cases spells with
    | leaf leaf => cases leaf
    | object => exact isOrdered_gather _

/-! ## Records in values -/

theorem fit_eq_ok_iff {bits : Nat} {number : Number} {scalar : Scalar} :
    number.fit bits = .ok scalar ↔
      ∃ count, number = .natural count ∧ count < Nat.pow 2 bits ∧ scalar = .count count := by
  cases number with
  | natural count =>
    rw [Number.fit]
    by_cases fits : count < Nat.pow 2 bits
    · rw [if_pos fits]
      constructor
      · rintro ⟨⟩
        exact ⟨count, rfl, fits, rfl⟩
      · rintro ⟨other, same, -, rfl⟩
        cases same
        rfl
    · rw [if_neg fits]
      constructor
      · intro impossible
        cases impossible
      · rintro ⟨other, same, small, -⟩
        cases same
        exact absurd small fits
  | negative magnitude => simp [Number.fit]
  | real negative magnitude => simp [Number.fit]

theorem scalar_unsigned_eq_ok_iff {bits : Nat} {value : Value} {scalar : Scalar} :
    value.scalar (.unsigned bits) = .ok scalar ↔
      ∃ count, value = .number (.natural count) ∧ count < Nat.pow 2 bits ∧
        scalar = .count count := by
  cases value with
  | number number => simp [Value.scalar, fit_eq_ok_iff]
  | null | bool | text | array | object => simp [Value.scalar]

theorem scalar_text_eq_ok_iff {value : Value} {scalar : Scalar} :
    value.scalar .text = .ok scalar ↔ ∃ text, value = .text text ∧ scalar = .text text := by
  cases value <;> simp [Value.scalar, eq_comm]

theorem scalar_optionalText_eq_ok_iff {value : Value} {scalar : Scalar} :
    value.scalar .optionalText = .ok scalar ↔
      (value = .null ∧ scalar = .absent) ∨ ∃ text, value = .text text ∧ scalar = .text text := by
  cases value <;> simp [Value.scalar, eq_comm]

namespace Shape

variable {shape : Shape} {entries : List (String × Value)} {gathered : Members}

/-- What is known of a member of a record: it is not there, or it has its type. -/
inductive Takes (field : Field) : Option Value → Option Scalar → Prop where
  | missing : Takes field none none
  | present {value : Value} {scalar : Scalar} (fits : value.scalar field.kind = .ok scalar) :
      Takes field (some value) (some scalar)

theorem Takes.of_ne_none {field : Field} {found : Option Value} {held : Option Scalar}
    (takes : Takes field found held) (there : held ≠ none) :
    ∃ value scalar, found = some value ∧ held = some scalar ∧
      value.scalar field.kind = .ok scalar := by
  cases takes with
  | missing => exact absurd rfl there
  | present fits => exact ⟨_, _, rfl, rfl, fits⟩

theorem name_of_field? {name : String} {field : Field} (found : shape.field? name = some field) :
    field.name = name := by
  have mine := List.find?_some (found : List.find? _ shape.fields = some field)
  exact beq_iff_eq.mp mine

/-- The known members are those that are there. -/
theorem takes_of_knownMembers (known : shape.knownMembers entries = .ok gathered) {field : Field}
    (there : shape.field? field.name = some field) :
    Takes field (entries.lookup field.name) (gathered.lookup field.name) := by
  induction entries generalizing gathered with
  | nil =>
    cases known
    exact .missing
  | cons entry later ih =>
    obtain ⟨name, value⟩ := entry
    rw [knownMembers] at known
    split at known
    · next other found =>
      obtain ⟨held, fits, known⟩ := bind_eq_ok_iff.mp known
      obtain ⟨rest, behind, known⟩ := bind_eq_ok_iff.mp known
      cases known
      by_cases here : field.name = name
      · rw [here] at there
        cases found.symm.trans there
        rw [here, List.lookup_cons_self, List.lookup_cons_self]
        exact .present fits
      · rw [lookup_cons_of_ne here, lookup_cons_of_ne here]
        exact ih behind
    · next unknown =>
      have different : field.name ≠ name := by
        rintro rfl
        cases unknown.symm.trans there
      rw [lookup_cons_of_ne different]
      exact ih known

/-- If all that is there has its type, the known members are found. -/
theorem exists_knownMembers
    (fits : ∀ entry ∈ entries, ∀ field, shape.field? entry.1 = some field →
      ∃ scalar, entry.2.scalar field.kind = .ok scalar) :
    ∃ gathered, shape.knownMembers entries = .ok gathered := by
  induction entries with
  | nil => exact ⟨[], rfl⟩
  | cons entry later ih =>
    obtain ⟨gathered, behind⟩ := ih fun other member => fits other (List.mem_cons_of_mem _ member)
    rw [knownMembers]
    cases found : shape.field? entry.1 with
    | none => exact ⟨gathered, behind⟩
    | some field =>
      obtain ⟨scalar, fit⟩ := fits entry List.mem_cons_self field found
      refine ⟨(field.name, scalar) :: gathered, ?_⟩
      simp only [fit, behind, bind, Except.bind, name_of_field? found]
      rfl

/-- The next element of an array is a member, if it has its type. -/
theorem knownElements_cons_eq_ok_iff {length position : Nat} {field : Field} {later : List Field}
    {value : Value} {values : List Value} :
    shape.knownElements length position (field :: later) (value :: values) = .ok gathered ↔
      ∃ scalar rest, value.scalar field.kind = .ok scalar ∧
        shape.knownElements length (position + 1) later values = .ok rest ∧
        gathered = (field.name, scalar) :: rest := by
  rw [knownElements, bind_eq_ok_iff]
  constructor
  · rintro ⟨scalar, fits, given⟩
    obtain ⟨rest, behind, same⟩ := bind_eq_ok_iff.mp given
    cases same
    exact ⟨scalar, rest, fits, behind, rfl⟩
  · rintro ⟨scalar, rest, fits, behind, rfl⟩
    exact ⟨scalar, fits, bind_eq_ok_iff.mpr ⟨rest, behind, rfl⟩⟩

theorem complete_eq_ok_iff {more : Members} :
    shape.complete gathered = .ok more ↔
      more = gathered ∧ ∀ field ∈ shape.fields, field.mayMiss = false →
        gathered.lookup field.name ≠ none := by
  rw [complete]
  split
  · next missing found =>
    have absent := List.find?_some found
    rw [Bool.and_eq_true, Bool.not_eq_true', Option.isNone_iff_eq_none] at absent
    simp only [reduceCtorEq, false_iff]
    rintro ⟨-, all⟩
    exact all missing (List.mem_of_find?_eq_some found) absent.1 absent.2
  · next none =>
    simp only [List.find?_eq_none, Bool.and_eq_true, Bool.not_eq_true', Option.isNone_iff_eq_none,
      not_and] at none
    simp only [Except.ok.injEq, eq_comm (a := gathered)]
    exact ⟨fun same => ⟨same, none⟩, fun both => both.1⟩

/-- What a record that is an object says of its members. -/
theorem takes_of_ofValue (read : shape.ofValue (.object entries) = .ok gathered) {field : Field}
    (member : field ∈ shape.fields) (there : shape.field? field.name = some field) :
    Takes field (entries.lookup field.name) (gathered.lookup field.name) ∧
      (field.mayMiss = false → gathered.lookup field.name ≠ none) := by
  obtain ⟨known, found, complete⟩ := bind_eq_ok_iff.mp read
  obtain ⟨rfl, all⟩ := complete_eq_ok_iff.mp complete
  exact ⟨takes_of_knownMembers found there, all field member⟩

/-- **An object is a record if its known members have their types and the required ones are
there.** -/
theorem exists_ofValue (ordered : IsOrdered entries)
    (distinct : ∀ field ∈ shape.fields, shape.field? field.name = some field)
    (fits : ∀ field ∈ shape.fields, ∃ held, Takes field (entries.lookup field.name) held ∧
      (field.mayMiss = false → held ≠ none)) :
    ∃ gathered, shape.ofValue (.object entries) = .ok gathered := by
  obtain ⟨gathered, known⟩ : ∃ gathered, shape.knownMembers entries = .ok gathered := by
    refine exists_knownMembers fun entry member field found => ?_
    have named := name_of_field? found
    obtain ⟨held, takes, -⟩ := fits field (List.mem_of_find?_eq_some found)
    rw [named, lookup_of_mem ordered member] at takes
    cases takes with
    | present fits => exact ⟨_, fits⟩
  refine ⟨gathered, ?_⟩
  rw [ofValue, known]
  refine complete_eq_ok_iff.mpr ⟨rfl, fun field member required absent => ?_⟩
  obtain ⟨held, takes, there⟩ := fits field member
  have known := takes_of_knownMembers known (distinct field member)
  rw [absent] at known
  generalize entries.lookup field.name = found at takes known
  cases known
  cases takes
  exact there required rfl

end Shape

/-! ## Writing -/

/-- The value that is written for what a member holds. -/
def Scalar.value : Scalar → Value
  | .text held => .text held
  | .count held => .number (.natural held)
  | .absent => .null

/-- An integer of a member fits 64 bits. -/
def Scalar.Fits : Scalar → Prop
  | .count held => held < Nat.pow 2 64
  | _ => True

theorem spellsLeaf_write {scalar : Scalar} (fits : scalar.Fits) :
    SpellsLeaf scalar.write scalar.value := by
  cases scalar with
  | text text => exact .text (spellsText_write text.toList)
  | count count => exact .number (spellsNumber_digits fits)
  | absent => exact .nullWord

theorem spellsMember_write {α : Type} {value : List Char → α → Prop} {text : List Char} {a : α}
    (name : String) (spells : value text a) :
    SpellsMember value (writeString name.toList ++ ':' :: text) (name, a) := by
  have tail : SpellsTail value (':' :: text) a := .colon isGap_nil isGap_nil spells
  have member := SpellsMember.named (spellsText_write name.toList) tail
  rw [writeString, List.cons_append, List.cons_append, List.append_assoc]
  exact member

/-- Items are spelled with single commas between them. -/
theorem listed_intercalate {α : Type} {item : List Char → α → Prop} {texts : List (List Char)}
    {all : List α} (each : List.Forall₂ item texts all) :
    Listed item ([','].intercalate texts) all := by
  have items {text : List Char} {a : α} (first : item text a) {others : List (List Char)}
      {rest : List α} (behind : List.Forall₂ item others rest) :
      Items item ([','].intercalate (text :: others)) (a :: rest) := by
    induction behind generalizing text a with
    | nil =>
      rw [List.intercalate_singleton, ← List.append_nil text]
      exact .last isGap_nil first isGap_nil
    | cons second _ ih =>
      rw [List.intercalate_cons_cons, List.append_assoc]
      exact .more isGap_nil first isGap_nil (ih second)
  cases each with
  | nil => exact .none isGap_nil
  | cons first behind => exact .some (items first behind)

/-- **What is written for members is an object of them.** -/
theorem spells_write {members : Members} (fits : ∀ member ∈ members, member.2.Fits)
    (depth : Nat) :
    Spells (depth + 1) members.write.toList
      (.object (gather (members.map fun member => (member.1, member.2.value)))) := by
  have each : List.Forall₂ (SpellsMember (Spells depth)) (members.map writeMember)
      (members.map fun member => (member.1, member.2.value)) := by
    rw [List.forall₂_map_left_iff, List.forall₂_map_right_iff, List.forall₂_same]
    exact fun member present =>
      spellsMember_write member.1 (.leaf (spellsLeaf_write (fits member present)))
  rw [Members.write, String.toList_ofList, List.cons_append]
  exact SpellsNode.object (listed_intercalate each)

end SealedCredentials.Json
