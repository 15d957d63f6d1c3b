import SealedCredentials.Json.Reader
import SealedCredentials.Proofs.Json.Number
import SealedCredentials.Proofs.Json.Quote

/-!
# Items between commas

Arrays and objects are items with commas between them and blanks around every token (`Listed`).  The
walk over elements and the walk over members are followed by themselves, for any way to read one
item: if an item is read exactly when it is spelled, a walk reads exactly the lists that are spelled
(`elements_sound`, `elements_complete`, `members_sound`, `members_complete`).  A walk over members
adds one after the other to what it has gathered, and ends with the first one that is refused.
-/

set_option autoImplicit false

namespace SealedCredentials.Json

/-! ## Blanks -/

/-- Nothing but blanks. -/
def IsGap (text : List Char) : Prop := ∀ c ∈ text, isSpace c = true

theorem isGap_nil : IsGap [] := by simp [IsGap]

theorem skipSpace_append {gap : List Char} (isGap : IsGap gap) (rest : List Char) :
    skipSpace (gap ++ rest) = skipSpace rest :=
  List.dropWhile_append_of_pos isGap

theorem skipSpace_cons {c : Char} (token : isSpace c = false) (rest : List Char) :
    skipSpace (c :: rest) = c :: rest :=
  List.dropWhile_cons_of_neg (by simp [token])

/-- A text is a gap and what is left after blanks were skipped. -/
theorem exists_gap (text : List Char) : ∃ gap, IsGap gap ∧ text = gap ++ skipSpace text :=
  ⟨text.takeWhile isSpace, fun _ => List.mem_takeWhile_imp, List.takeWhile_append_dropWhile.symm⟩

/-- A number ends where blanks are followed by a mark, or by nothing. -/
theorem endsNumber_of_isGap {gap : List Char} (isGap : IsGap gap) {rest : List Char}
    (ends : EndsNumber rest) : EndsNumber (gap ++ rest) := by
  cases gap with
  | nil => exact ends
  | cons c later =>
    rintro _ ⟨⟩
    have blank := isGap c List.mem_cons_self
    simp only [isSpace, Bool.or_eq_true, decide_eq_true_eq] at blank
    rcases blank with ((rfl | rfl) | rfl) | rfl <;> decide

theorem endsNumber_mark {mark : Char} (marks : mark = ',' ∨ mark = ']' ∨ mark = '}')
    (rest : List Char) : EndsNumber (mark :: rest) := by
  rintro _ ⟨⟩
  rcases marks with rfl | rfl | rfl <;> decide

/-! ## Items between commas -/

section Items

variable {α : Type}

/-- Items with commas between them and blanks around them, at least one. -/
inductive Items (item : List Char → α → Prop) : List Char → List α → Prop where
  | last {before text after : List Char} {a : α} (opens : IsGap before) (spells : item text a)
      (closes : IsGap after) : Items item (before ++ (text ++ after)) [a]
  | more {before text after rest : List Char} {a : α} {later : List α} (opens : IsGap before)
      (spells : item text a) (closes : IsGap after) (others : Items item rest later) :
      Items item (before ++ (text ++ (after ++ ',' :: rest))) (a :: later)

/-- Items with commas between them, or blanks. -/
inductive Listed (item : List Char → α → Prop) : List Char → List α → Prop where
  | none {gap : List Char} (isGap : IsGap gap) : Listed item gap []
  | some {text : List Char} {all : List α} (items : Items item text all) : Listed item text all

/-- What is read is spelled, behind blanks. -/
def Sound (read : List Char → Except Fault (α × List Char)) (item : List Char → α → Prop) : Prop :=
  ∀ text a rest, read text = .ok (a, rest) →
    ∃ gap spelled, IsGap gap ∧ text = gap ++ (spelled ++ rest) ∧ item spelled a

/-- What is spelled, behind blanks, in at most so many characters, is read if what follows does not
go on with a number. -/
def Complete (bound : Nat) (read : List Char → Except Fault (α × List Char))
    (item : List Char → α → Prop) : Prop :=
  ∀ gap spelled a rest, IsGap gap → item spelled a → EndsNumber rest → spelled.length ≤ bound →
    read (gap ++ (spelled ++ rest)) = .ok (a, rest)

/-- An item begins with a token that closes nothing. -/
def Begins (item : List Char → α → Prop) : Prop :=
  ∀ spelled a, item spelled a →
    ∃ c later, spelled = c :: later ∧ isSpace c = false ∧ c ≠ ']' ∧ c ≠ '}'

variable {read : List Char → Except Fault (α × List Char)} {item : List Char → α → Prop}

theorem Items.spelled {text : List Char} {all : List α} (items : Items item text all) :
    ∀ a ∈ all, ∃ spelled, item spelled a := by
  induction items with
  | last _ spells _ => exact List.forall_mem_singleton.mpr ⟨_, spells⟩
  | more _ spells _ _ ih => exact List.forall_mem_cons.mpr ⟨⟨_, spells⟩, ih⟩

/-- Whatever is listed is spelled somewhere. -/
theorem Listed.spelled {text : List Char} {all : List α} (listed : Listed item text all) :
    ∀ a ∈ all, ∃ spelled, item spelled a := by
  cases listed with
  | none => exact List.forall_mem_nil _
  | some items => exact items.spelled

/-- Blanks before items are blanks before the first one. -/
theorem Items.behind_gap {gap text : List Char} {all : List α} (isGap : IsGap gap)
    (items : Items item text all) : Items item (gap ++ text) all := by
  cases items with
  | last opens spells closes =>
    rw [← List.append_assoc]
    exact .last (List.forall_mem_append.mpr ⟨isGap, opens⟩) spells closes
  | more opens spells closes others =>
    rw [← List.append_assoc]
    exact .more (List.forall_mem_append.mpr ⟨isGap, opens⟩) spells closes others

/-- Behind blanks stands the first token of an item, which closes nothing. -/
theorem skipSpace_item (begins : Begins item) {before text : List Char} {a : α}
    (opens : IsGap before) (spells : item text a) (rest : List Char) :
    ∃ c later, skipSpace (before ++ (text ++ rest)) = c :: later ∧ c ≠ ']' ∧ c ≠ '}' := by
  obtain ⟨c, later, rfl, token, other⟩ := begins _ _ spells
  rw [skipSpace_append opens, List.cons_append, skipSpace_cons token]
  exact ⟨c, _, rfl, other⟩

/-- After the opening blanks of items stands neither a closing bracket nor a closing brace. -/
theorem Items.begins (begins : Begins item) {text : List Char} {all : List α}
    (items : Items item text all) (rest : List Char) :
    ∃ c later, skipSpace (text ++ rest) = c :: later ∧ c ≠ ']' ∧ c ≠ '}' := by
  cases items with
  | last opens spells closes =>
    rw [List.append_assoc, List.append_assoc]
    exact skipSpace_item begins opens spells _
  | more opens spells closes others =>
    rw [List.append_assoc, List.append_assoc]
    exact skipSpace_item begins opens spells _

/-! ### Elements -/

theorem moreElements_sound (sound : Sound read item) {fuel : Nat} {text rest : List Char}
    {all : List α} (reads : moreElements read fuel text = .ok (all, rest)) :
    ∃ inside, text = inside ++ ']' :: rest ∧ Items item inside all := by
  induction fuel generalizing text all with
  | zero => cases reads
  | succ fuel ih =>
    obtain ⟨⟨a, left⟩, first, given⟩ := bind_eq_ok_iff.mp reads
    obtain ⟨before, spelled, opens, rfl, spells⟩ := sound _ _ _ first
    obtain ⟨after, closes, whole⟩ := exists_gap left
    dsimp only at given
    split at given
    · next later mark =>
      obtain ⟨⟨others, _⟩, following, given⟩ := bind_eq_ok_iff.mp given
      cases given
      obtain ⟨inside, rfl, items⟩ := ih following
      rw [whole, mark]
      exact ⟨_, by simp, .more opens spells closes items⟩
    · next later mark =>
      cases given
      rw [whole, mark]
      exact ⟨_, by simp, .last opens spells closes⟩
    · cases given

theorem moreElements_complete {bound : Nat} (complete : Complete bound read item)
    {inside : List Char} {all : List α} (items : Items item inside all)
    (small : inside.length ≤ bound) {fuel : Nat} (enough : inside.length < fuel)
    (rest : List Char) :
    moreElements read fuel (inside ++ ']' :: rest) = .ok (all, rest) := by
  induction items generalizing fuel with
  | @last before text after a opens spells closes =>
    cases fuel with
    | zero => cases enough
    | succ fuel =>
      simp only [List.length_append] at small
      have ends : EndsNumber (after ++ ']' :: rest) :=
        endsNumber_of_isGap closes (endsNumber_mark (by simp) rest)
      have first := complete before text a _ opens spells ends (by omega)
      rw [List.append_assoc, List.append_assoc, moreElements, first]
      simp only [bind, Except.bind, skipSpace_append closes]
      rfl
  | @more before text after later a others opens spells closes items ih =>
    cases fuel with
    | zero => cases enough
    | succ fuel =>
      simp only [List.length_append, List.length_cons] at small enough
      have ends : EndsNumber (after ++ ',' :: (later ++ ']' :: rest)) :=
        endsNumber_of_isGap closes (endsNumber_mark (by simp) _)
      have first := complete before text a _ opens spells ends (by omega)
      have left : later.length < fuel := by omega
      have following := ih (by omega) left
      simp only [List.append_assoc, List.cons_append]
      rw [moreElements, first]
      simp only [bind, Except.bind, skipSpace_append closes, skipSpace_cons (c := ',') rfl,
        following]
      rfl

theorem elements_sound (sound : Sound read item) {fuel : Nat} {text rest : List Char}
    {all : List α} (reads : elements read fuel text = .ok (all, rest)) :
    ∃ inside, text = inside ++ ']' :: rest ∧ Listed item inside all := by
  rw [elements] at reads
  split at reads
  · next later closing =>
    cases reads
    obtain ⟨gap, isGap, whole⟩ := exists_gap text
    rw [closing] at whole
    exact ⟨gap, whole, .none isGap⟩
  · obtain ⟨inside, whole, items⟩ := moreElements_sound sound reads
    exact ⟨inside, whole, .some items⟩

theorem elements_complete {bound : Nat} (complete : Complete bound read item)
    (begins : Begins item) {inside : List Char} {all : List α} (listed : Listed item inside all)
    (small : inside.length ≤ bound) {fuel : Nat} (enough : inside.length < fuel)
    (rest : List Char) : elements read fuel (inside ++ ']' :: rest) = .ok (all, rest) := by
  cases listed with
  | none isGap =>
    rw [elements, skipSpace_append isGap]
    rfl
  | some items =>
    obtain ⟨c, later, token, other, -⟩ := items.begins begins (']' :: rest)
    rw [elements, token, ← moreElements_complete complete items small enough rest]
    split
    · next same => exact absurd (List.cons.inj same).1 other
    · rfl

end Items

/-! ### Members -/

section Members

variable {α σ ν : Type}

/-- What follows the name of a member: a colon and the value. -/
inductive SpellsTail (value : List Char → α → Prop) : List Char → α → Prop where
  | colon {before after text : List Char} {a : α} (opens : IsGap before) (closes : IsGap after)
      (spells : value text a) : SpellsTail value (before ++ ':' :: (after ++ text)) a

/-- A member: its name between quotes, and its value. -/
inductive SpellsMember (value : List Char → α → Prop) : List Char → String × α → Prop where
  | named {spelled tail : List Char} {name : String} {a : α}
      (spells : SpellsText spelled name.toList) (holds : SpellsTail value tail a) :
      SpellsMember value ('"' :: (spelled ++ '"' :: tail)) (name, a)

/-- Whatever is taken for a member after its name is spelled, and is added to what was gathered. -/
def TakesSound (take : σ → ν → List Char → Except Fault (σ × List Char))
    (value : List Char → α → Prop) (add : σ → ν × α → Except Fault σ) : Prop :=
  ∀ gathered name text more rest, take gathered name text = .ok (more, rest) →
    ∃ tail a, text = tail ++ rest ∧ SpellsTail value tail a ∧ add gathered (name, a) = .ok more

/-- What is spelled after the name of a member, in at most so many characters, is taken for it. -/
def TakesComplete (bound : Nat) (take : σ → ν → List Char → Except Fault (σ × List Char))
    (value : List Char → α → Prop) (add : σ → ν × α → Except Fault σ) : Prop :=
  ∀ gathered name tail a rest, SpellsTail value tail a → EndsNumber rest → tail.length ≤ bound →
    take gathered name (tail ++ rest) = (add gathered (name, a)).map (·, rest)

/-- Whatever is read as a name up to its closing quote makes a member with any value behind it. -/
def NamesSound (name : List Char → Except Fault (ν × List Char)) (value : List Char → α → Prop)
    (item : List Char → ν × α → Prop) : Prop :=
  ∀ text called rest, name text = .ok (called, rest) → ∃ spelled, text = spelled ++ '"' :: rest ∧
    ∀ tail a, SpellsTail value tail a → item ('"' :: (spelled ++ '"' :: tail)) (called, a)

/-- A member is a name between quotes, which is read as such, and a value behind it. -/
def NamesComplete (name : List Char → Except Fault (ν × List Char)) (value : List Char → α → Prop)
    (item : List Char → ν × α → Prop) : Prop :=
  ∀ text member, item text member → ∃ spelled tail, text = '"' :: (spelled ++ '"' :: tail) ∧
    (∀ rest, name (spelled ++ '"' :: rest) = .ok (member.1, rest)) ∧
      SpellsTail value tail member.2

theorem namesSound_readString (value : List Char → α → Prop) :
    NamesSound readString value (SpellsMember value) := by
  intro text name rest reads
  obtain ⟨spelled, rfl, spells⟩ := readString_eq_ok_iff.mp reads
  exact ⟨spelled, rfl, fun tail a holds => .named spells holds⟩

theorem namesComplete_readString (value : List Char → α → Prop) :
    NamesComplete readString value (SpellsMember value) := by
  intro text member spells
  cases spells with
  | @named spelled tail name a spells holds =>
    exact ⟨spelled, tail, rfl, fun rest => readString_eq_ok_iff.mpr ⟨spelled, rfl, spells⟩, holds⟩

variable {name : List Char → Except Fault (ν × List Char)}
  {take : σ → ν → List Char → Except Fault (σ × List Char)} {value : List Char → α → Prop}
  {item : List Char → ν × α → Prop} {add : σ → ν × α → Except Fault σ}

theorem moreMembers_sound (names : NamesSound name value item) (sound : TakesSound take value add)
    {fuel : Nat} {start gathered : σ} {text rest : List Char}
    (reads : moreMembers name take fuel start text = .ok (gathered, rest)) :
    ∃ inside raw, text = inside ++ '}' :: rest ∧ Items item inside raw ∧
      raw.foldlM add start = .ok gathered := by
  induction fuel generalizing text start with
  | zero => cases reads
  | succ fuel ih =>
    obtain ⟨before, opens, whole⟩ := exists_gap text
    rw [moreMembers] at reads
    split at reads
    · next later quote =>
      obtain ⟨⟨called, tail⟩, named, behind⟩ := bind_eq_ok_iff.mp reads
      obtain ⟨⟨more, left⟩, taken, given⟩ := bind_eq_ok_iff.mp behind
      obtain ⟨spelled, rfl, makes⟩ := names _ _ _ named
      obtain ⟨tail, a, rfl, holds, added⟩ := sound _ _ _ _ _ taken
      obtain ⟨after, closes, split⟩ := exists_gap left
      have member := makes tail a holds
      rw [whole, quote, split]
      dsimp only at given
      split at given
      · next following mark =>
        obtain ⟨inside, raw, rfl, items, folded⟩ := ih given
        refine ⟨_, (called, a) :: raw, ?_, .more opens member closes items, ?_⟩
        · rw [mark]
          simp
        · rw [List.foldlM_cons, added]
          exact folded
      · next following mark =>
        cases given
        refine ⟨_, [(called, a)], ?_, .last opens member closes, ?_⟩
        · rw [mark]
          simp
        · rw [List.foldlM_cons, added]
          rfl
      · cases given
    · cases reads

theorem members_sound (names : NamesSound name value item) (sound : TakesSound take value add)
    {fuel : Nat} {start gathered : σ} {text rest : List Char}
    (reads : members name take fuel start text = .ok (gathered, rest)) :
    ∃ inside raw, text = inside ++ '}' :: rest ∧ Listed item inside raw ∧
      raw.foldlM add start = .ok gathered := by
  rw [members] at reads
  split at reads
  · next later closing =>
    cases reads
    obtain ⟨gap, isGap, whole⟩ := exists_gap text
    rw [closing] at whole
    exact ⟨gap, [], whole, .none isGap, rfl⟩
  · obtain ⟨inside, raw, whole, items, folded⟩ := moreMembers_sound names sound reads
    exact ⟨inside, raw, whole, .some items, folded⟩

theorem NamesComplete.begins (names : NamesComplete name value item) : Begins item := by
  intro text member spells
  obtain ⟨spelled, tail, rfl, -⟩ := names text member spells
  exact ⟨'"', _, rfl, rfl, by decide, by decide⟩

/-- One member is taken, and what follows it decides how to go on. -/
theorem moreMembers_member {bound : Nat} (names : NamesComplete name value item)
    (complete : TakesComplete bound take value add) {before text left : List Char}
    {member : ν × α} (opens : IsGap before) (spells : item text member)
    (small : text.length ≤ bound) (ends : EndsNumber left) (fuel : Nat) (start : σ) :
    moreMembers name take (fuel + 1) start (before ++ (text ++ left)) = (do
      let more ← add start member
      match skipSpace left with
      | ',' :: rest => moreMembers name take fuel more rest
      | '}' :: rest => return (more, rest)
      | _ => throw .malformed) := by
  obtain ⟨spelled, tail, rfl, named, holds⟩ := names text member spells
  simp only [List.length_cons, List.length_append] at small
  have called := named (tail ++ left)
  have taken := complete start member.1 tail member.2 left holds ends (by omega)
  rw [List.cons_append, List.append_assoc, List.cons_append, moreMembers, skipSpace_append opens,
    skipSpace_cons rfl]
  simp only [called, taken, bind, Except.bind]
  cases add start member with
  | error fault => rfl
  | ok more => rfl

theorem moreMembers_complete {bound : Nat} (names : NamesComplete name value item)
    (complete : TakesComplete bound take value add) {inside : List Char} {raw : List (ν × α)}
    (items : Items item inside raw) (small : inside.length ≤ bound) {fuel : Nat}
    (enough : inside.length < fuel) (start : σ) (rest : List Char) :
    moreMembers name take fuel start (inside ++ '}' :: rest) =
      (raw.foldlM add start).map (·, rest) := by
  induction items generalizing fuel start with
  | @last before text after member opens spells closes =>
    cases fuel with
    | zero => cases enough
    | succ fuel =>
      simp only [List.length_append] at small
      have ends : EndsNumber (after ++ '}' :: rest) :=
        endsNumber_of_isGap closes (endsNumber_mark (by simp) rest)
      rw [List.append_assoc, List.append_assoc,
        moreMembers_member names complete opens spells (by omega) ends, skipSpace_append closes,
        List.foldlM_cons]
      cases add start member with
      | error fault => rfl
      | ok more => rfl
  | @more before text after later member others opens spells closes items ih =>
    cases fuel with
    | zero => cases enough
    | succ fuel =>
      simp only [List.length_append, List.length_cons] at small enough
      have ends : EndsNumber (after ++ ',' :: (later ++ '}' :: rest)) :=
        endsNumber_of_isGap closes (endsNumber_mark (by simp) _)
      simp only [List.append_assoc, List.cons_append]
      rw [moreMembers_member names complete opens spells (by omega) ends, skipSpace_append closes,
        List.foldlM_cons]
      cases add start member with
      | error fault => rfl
      | ok more => exact ih (by omega) (by omega) more

theorem members_complete {bound : Nat} (names : NamesComplete name value item)
    (complete : TakesComplete bound take value add) {inside : List Char} {raw : List (ν × α)}
    (listed : Listed item inside raw) (small : inside.length ≤ bound) {fuel : Nat}
    (enough : inside.length < fuel) (start : σ) (rest : List Char) :
    members name take fuel start (inside ++ '}' :: rest) =
      (raw.foldlM add start).map (·, rest) := by
  cases listed with
  | none isGap =>
    rw [members, skipSpace_append isGap]
    rfl
  | some items =>
    obtain ⟨c, later, token, -, other⟩ := items.begins names.begins ('}' :: rest)
    rw [members, token, ← moreMembers_complete names complete items small enough start rest]
    split
    · next same => exact absurd (List.cons.inj same).1 other
    · rfl

end Members

end SealedCredentials.Json
