import SealedCredentials.Proofs.Json.Items

/-!
# How JSON texts are spelled

A value is spelled as a word, a number or a string, or as an array or an object around other values
(`Spells`).  Its depth bounds how many arrays and objects are open at a time.  An object holds for
each name what its last member of this name holds (`gather`).  With an induction on the depth,
reading takes exactly what is spelled (`readNested_sound`, `readNested_complete`), so the value of a
whole text is the one that it spells (`Value.parse_eq_ok_iff`).
-/

set_option autoImplicit false

namespace SealedCredentials.Json

/-! ## Values -/

/-- What an object holds of its members: the last one of each name, in the order of the names. -/
def gather (raw : List (String × Value)) : List (String × Value) :=
  raw.foldl (fun entries member => insertMember member.1 member.2 entries) []

/-- A word, a number or a string. -/
inductive SpellsLeaf : List Char → Value → Prop where
  | nullWord : SpellsLeaf ['n', 'u', 'l', 'l'] .null
  | trueWord : SpellsLeaf ['t', 'r', 'u', 'e'] (.bool true)
  | falseWord : SpellsLeaf ['f', 'a', 'l', 's', 'e'] (.bool false)
  | number {spelled : List Char} {number : Number} (spells : SpellsNumber spelled number) :
      SpellsLeaf spelled (.number number)
  | text {spelled : List Char} {value : String} (spells : SpellsText spelled value.toList) :
      SpellsLeaf ('"' :: (spelled ++ ['"'])) (.text value)

/-- A value around others: a leaf, an array or an object. -/
inductive SpellsNode (inner : List Char → Value → Prop) : List Char → Value → Prop where
  | leaf {spelled : List Char} {value : Value} (spells : SpellsLeaf spelled value) :
      SpellsNode inner spelled value
  | array {inside : List Char} {values : List Value} (listed : Listed inner inside values) :
      SpellsNode inner ('[' :: (inside ++ [']'])) (.array values)
  | object {inside : List Char} {raw : List (String × Value)}
      (listed : Listed (SpellsMember inner) inside raw) :
      SpellsNode inner ('{' :: (inside ++ ['}'])) (.object (gather raw))

/-- A value in which at most so many arrays and objects are open at a time. -/
def Spells : Nat → List Char → Value → Prop
  | 0 => SpellsLeaf
  | depth + 1 => SpellsNode (Spells depth)

theorem Spells.leaf {depth : Nat} {spelled : List Char} {value : Value}
    (spells : SpellsLeaf spelled value) : Spells depth spelled value := by
  cases depth with
  | zero => exact spells
  | succ depth => exact SpellsNode.leaf spells

/-- What begins a number is no blank and closes nothing. -/
theorem BeginsNumber.token {c : Char} (first : BeginsNumber c) :
    isSpace c = false ∧ c ≠ ']' ∧ c ≠ '}' := by
  refine ⟨?_, first.ne (by decide), first.ne (by decide)⟩
  have blanks : ∀ blank ∈ [' ', '\t', '\n', '\r'], c ≠ blank := by
    simp only [List.forall_mem_cons]
    exact ⟨first.ne (by decide), first.ne (by decide), first.ne (by decide), first.ne (by decide),
      List.forall_mem_nil _⟩
  simpa [isSpace, and_assoc] using blanks

theorem SpellsLeaf.begins {spelled : List Char} {value : Value}
    (spells : SpellsLeaf spelled value) :
    ∃ c later, spelled = c :: later ∧ isSpace c = false ∧ c ≠ ']' ∧ c ≠ '}' := by
  cases spells with
  | nullWord => exact ⟨_, _, rfl, rfl, by decide, by decide⟩
  | trueWord => exact ⟨_, _, rfl, rfl, by decide, by decide⟩
  | falseWord => exact ⟨_, _, rfl, rfl, by decide, by decide⟩
  | text => exact ⟨_, _, rfl, rfl, by decide, by decide⟩
  | number spells =>
    obtain ⟨c, later, rfl, first⟩ := spells.begins
    exact ⟨c, later, rfl, first.token⟩

theorem begins_spells (depth : Nat) : Begins (Spells depth) := by
  intro spelled value spells
  cases depth with
  | zero => exact SpellsLeaf.begins spells
  | succ depth =>
    cases spells with
    | leaf spells => exact spells.begins
    | array => exact ⟨_, _, rfl, rfl, by decide, by decide⟩
    | object => exact ⟨_, _, rfl, rfl, by decide, by decide⟩

/-! ### Reading a value -/

theorem expectWord_eq_ok_iff {word text rest : List Char} :
    expectWord word text = .ok rest ↔ text = word ++ rest := by
  induction word generalizing text with
  | nil => simp [expectWord]
  | cons expected word ih =>
    cases text with
    | nil => simp [expectWord]
    | cons c text =>
      rw [expectWord, List.cons_append, List.cons.injEq, ← ih]
      by_cases same : c = expected
      · rw [if_pos same]
        simp [same]
      · rw [if_neg same]
        simp [same]

theorem afterColon_eq_ok_iff {text rest : List Char} :
    afterColon text = .ok rest ↔ ∃ gap, IsGap gap ∧ text = gap ++ ':' :: rest := by
  constructor
  · intro reads
    obtain ⟨gap, isGap, whole⟩ := exists_gap text
    rw [afterColon] at reads
    split at reads
    · next later colon =>
      cases reads
      exact ⟨gap, isGap, colon ▸ whole⟩
    · cases reads
  · rintro ⟨gap, isGap, rfl⟩
    rw [afterColon, skipSpace_append isGap]
    rfl

/-- Behind the colon after a name stands a value. -/
theorem exists_afterColon {α : Type} {value : List Char → α → Prop} {tail : List Char} {a : α}
    (spells : SpellsTail value tail a) (rest : List Char) :
    ∃ gap text, IsGap gap ∧ value text a ∧ text.length ≤ tail.length ∧
      afterColon (tail ++ rest) = .ok (gap ++ (text ++ rest)) := by
  cases spells with
  | @colon before after text a opens closes spells =>
    refine ⟨after, text, closes, spells, ?_, ?_⟩
    · simp only [List.length_append, List.length_cons]
      omega
    · rw [List.append_assoc, List.cons_append, List.append_assoc]
      exact afterColon_eq_ok_iff.mpr ⟨before, opens, rfl⟩

/-- What is done about the token at the head of a text is told by its first character: a word that
stands for a value, a string, an array, an object or a number. -/
def dispatch {β : Type} (word : Value → List Char → List Char → Except Fault β)
    (string array object number : List Char → Except Fault β) : List Char → Except Fault β
  | [] => .error .malformed
  | 'n' :: rest => word .null ['u', 'l', 'l'] rest
  | 't' :: rest => word (.bool true) ['r', 'u', 'e'] rest
  | 'f' :: rest => word (.bool false) ['a', 'l', 's', 'e'] rest
  | '"' :: rest => string rest
  | '[' :: rest => array rest
  | '{' :: rest => object rest
  | c :: rest => number (c :: rest)

theorem dispatch_number {β : Type} {c : Char} (first : BeginsNumber c)
    (word : Value → List Char → List Char → Except Fault β)
    (string array object number : List Char → Except Fault β) (rest : List Char) :
    dispatch word string array object number (c :: rest) = number (c :: rest) := by
  rw [dispatch.eq_def]
  split
  · next same => cases same
  · next same => exact absurd (List.cons.inj same).1 (first.ne (by decide))
  · next same => exact absurd (List.cons.inj same).1 (first.ne (by decide))
  · next same => exact absurd (List.cons.inj same).1 (first.ne (by decide))
  · next same => exact absurd (List.cons.inj same).1 (first.ne (by decide))
  · next same => exact absurd (List.cons.inj same).1 (first.ne (by decide))
  · next same => exact absurd (List.cons.inj same).1 (first.ne (by decide))
  · next same =>
    cases same
    rfl

/-- Whatever is read behind the head of a token is spelled together with this head. -/
def SoundAfter {α : Type} (head : List Char) (read : List Char → Except Fault (α × List Char))
    (item : List Char → α → Prop) : Prop :=
  ∀ text a rest, read text = .ok (a, rest) →
    ∃ spelled, head ++ text = spelled ++ rest ∧ item spelled a

theorem dispatch_sound {α : Type} {item : List Char → α → Prop}
    {word : Value → List Char → List Char → Except Fault (α × List Char)}
    {string array object number : List Char → Except Fault (α × List Char)}
    (words : ∀ first later meant, SpellsLeaf (first :: later) meant →
      SoundAfter [first] (word meant later) item)
    (strings : SoundAfter ['"'] string item) (arrays : SoundAfter ['['] array item)
    (objects : SoundAfter ['{'] object item) (numbers : SoundAfter [] number item) :
    SoundAfter [] (dispatch word string array object number) item := by
  intro text a rest reads
  rw [dispatch.eq_def] at reads
  split at reads
  · cases reads
  · exact words _ _ _ .nullWord _ _ _ reads
  · exact words _ _ _ .trueWord _ _ _ reads
  · exact words _ _ _ .falseWord _ _ _ reads
  · exact strings _ _ _ reads
  · exact arrays _ _ _ reads
  · exact objects _ _ _ reads
  · exact numbers _ _ _ reads

/-- A reader that skips blanks is sound if what it does about a token is. -/
theorem sound_of_token {α : Type} {read token : List Char → Except Fault (α × List Char)}
    {item : List Char → α → Prop} (same : ∀ text, read text = token (skipSpace text))
    (sound : SoundAfter [] token item) : Sound read item := by
  intro text a rest reads
  rw [same] at reads
  obtain ⟨gap, isGap, whole⟩ := exists_gap text
  obtain ⟨spelled, token, spells⟩ := sound _ _ _ reads
  exact ⟨gap, spelled, isGap, token ▸ whole, spells⟩

/-- An array, after its bracket. -/
def readArray (fuel : Nat) : Nat → List Char → Except Fault (Value × List Char)
  | 0, _ => .error .malformed
  | depth + 1, rest => do
    let (values, rest) ← elements (readNested fuel depth) fuel rest
    return (.array values, rest)

/-- A member of an object, after its name, is added to those that were gathered. -/
def takeValue (fuel depth : Nat) (entries : List (String × Value)) (name : String)
    (rest : List Char) : Except Fault (List (String × Value) × List Char) := do
  let (value, rest) ← readNested fuel depth (← afterColon rest)
  return (insertMember name value entries, rest)

/-- An object, after its brace. -/
def readObject (fuel : Nat) : Nat → List Char → Except Fault (Value × List Char)
  | 0, _ => .error .malformed
  | depth + 1, rest => do
    let (entries, rest) ← members readString (takeValue fuel depth) fuel [] rest
    return (.object entries, rest)

/-- What is read behind the blanks at the head of a text. -/
def readToken (fuel depth : Nat) : List Char → Except Fault (Value × List Char) :=
  dispatch (fun value word rest => (expectWord word rest).map (value, ·))
    (fun rest => (readString rest).map fun (value, rest) => (.text value, rest))
    (readArray fuel depth) (readObject fuel depth)
    fun text => (readNumber text).map fun (value, rest) => (.number value, rest)

theorem readNested_eq (fuel depth : Nat) (text : List Char) :
    readNested fuel depth text = readToken fuel depth (skipSpace text) := by
  rw [readNested.eq_def]
  dsimp only
  cases depth with
  | zero => rfl
  | succ depth => rfl

theorem readToken_number {c : Char} (first : BeginsNumber c) (fuel depth : Nat)
    (rest : List Char) :
    readToken fuel depth (c :: rest) =
      (readNumber (c :: rest)).map fun (value, rest) => (.number value, rest) :=
  dispatch_number first ..

theorem readToken_leaf {spelled rest : List Char} {value : Value}
    (spells : SpellsLeaf spelled value) (ends : EndsNumber rest) (fuel depth : Nat) :
    readToken fuel depth (spelled ++ rest) = .ok (value, rest) := by
  cases spells with
  | nullWord => rfl
  | trueWord => rfl
  | falseWord => rfl
  | number spells =>
    obtain ⟨c, later, rfl, first⟩ := spells.begins
    have reads := readNumber_complete spells ends
    rw [List.cons_append] at reads ⊢
    rw [readToken_number first, reads]
    rfl
  | @text spelled value spells =>
    have reads : readString (spelled ++ '"' :: rest) = .ok (value, rest) :=
      readString_eq_ok_iff.mpr ⟨spelled, rfl, spells⟩
    rw [List.cons_append, List.append_assoc, List.singleton_append, readToken, dispatch, reads]
    rfl

/-- How members are gathered: none is refused. -/
def addMember (entries : List (String × Value)) (member : String × Value) :
    Except Fault (List (String × Value)) := .ok (insertMember member.1 member.2 entries)

theorem foldlM_addMember (raw : List (String × Value)) :
    raw.foldlM addMember [] = .ok (gather raw) :=
  List.foldlM_pure ..

theorem takeValue_sound {fuel depth : Nat} (sound : Sound (readNested fuel depth) (Spells depth)) :
    TakesSound (takeValue fuel depth) (Spells depth) addMember := by
  intro entries name text more rest taken
  obtain ⟨behind, colon, read⟩ := bind_eq_ok_iff.mp taken
  obtain ⟨⟨value, _⟩, reads, given⟩ := bind_eq_ok_iff.mp read
  cases given
  obtain ⟨before, opens, rfl⟩ := afterColon_eq_ok_iff.mp colon
  obtain ⟨after, spelled, closes, rfl, spells⟩ := sound _ _ _ reads
  exact ⟨_, value, by simp, .colon opens closes spells, rfl⟩

theorem takeValue_complete {fuel depth : Nat}
    (complete : Complete fuel (readNested fuel depth) (Spells depth)) :
    TakesComplete fuel (takeValue fuel depth) (Spells depth) addMember := by
  intro entries name tail value rest spells ends small
  obtain ⟨gap, text, isGap, spells, shorter, colon⟩ := exists_afterColon spells rest
  have reads := complete gap text value rest isGap spells ends (Nat.le_trans shorter small)
  simp only [takeValue, colon, reads, bind, Except.bind]
  rfl

theorem readArray_sound {fuel depth : Nat}
    (sound : Sound (readNested fuel depth) (Spells depth)) :
    SoundAfter ['['] (readArray fuel (depth + 1)) (Spells (depth + 1)) := by
  intro text value rest reads
  obtain ⟨⟨values, _⟩, inner, given⟩ := bind_eq_ok_iff.mp reads
  cases given
  obtain ⟨inside, rfl, listed⟩ := elements_sound sound inner
  exact ⟨_, by simp, SpellsNode.array listed⟩

theorem readObject_sound {fuel depth : Nat}
    (sound : Sound (readNested fuel depth) (Spells depth)) :
    SoundAfter ['{'] (readObject fuel (depth + 1)) (Spells (depth + 1)) := by
  intro text value rest reads
  obtain ⟨⟨entries, _⟩, inner, given⟩ := bind_eq_ok_iff.mp reads
  cases given
  obtain ⟨inside, raw, rfl, listed, folded⟩ := members_sound (namesSound_readString _)
    (takeValue_sound sound) inner
  cases (foldlM_addMember raw).symm.trans folded
  exact ⟨_, by simp, SpellsNode.object listed⟩

/-- A word is expected as a whole. -/
theorem expectWord_sound {α : Type} {first : Char} {later : List Char} {a : α}
    {item : List Char → α → Prop} (spells : item (first :: later) a) :
    SoundAfter [first] (fun text => (expectWord later text).map (a, ·)) item := by
  intro text value rest reads
  obtain ⟨after, expected, given⟩ := map_eq_ok_iff.mp reads
  cases given
  obtain rfl := expectWord_eq_ok_iff.mp expected
  exact ⟨first :: later, rfl, spells⟩

/-- What is read is spelled, if this is known of what is read within arrays and objects. -/
theorem readToken_sound {fuel depth : Nat}
    (arrays : SoundAfter ['['] (readArray fuel depth) (Spells depth))
    (objects : SoundAfter ['{'] (readObject fuel depth) (Spells depth)) :
    SoundAfter [] (readToken fuel depth) (Spells depth) := by
  refine dispatch_sound ?_ ?_ arrays objects ?_
  · intro first later meant leaf
    exact expectWord_sound (.leaf leaf)
  · intro text value rest reads
    obtain ⟨⟨text, after⟩, string, given⟩ := map_eq_ok_iff.mp reads
    cases given
    obtain ⟨spelled, rfl, spells⟩ := readString_eq_ok_iff.mp string
    exact ⟨'"' :: (spelled ++ ['"']), by simp, .leaf (.text spells)⟩
  · intro text value rest reads
    obtain ⟨⟨number, after⟩, lexed, given⟩ := map_eq_ok_iff.mp reads
    cases given
    obtain ⟨spelled, whole, spells⟩ := readNumber_sound lexed
    exact ⟨spelled, whole, .leaf (.number spells)⟩

/-- **What is read as a value is spelled like one.** -/
theorem readNested_sound (fuel depth : Nat) : Sound (readNested fuel depth) (Spells depth) := by
  induction depth with
  | zero =>
    refine sound_of_token (readNested_eq fuel 0) (readToken_sound ?_ ?_)
    · intro text value rest impossible
      cases impossible
    · intro text value rest impossible
      cases impossible
  | succ depth ih =>
    exact sound_of_token (readNested_eq fuel (depth + 1))
      (readToken_sound (readArray_sound ih) (readObject_sound ih))

/-- **What is spelled like a value is read as one**, with fuel for its length. -/
theorem readNested_complete (fuel depth : Nat) :
    Complete fuel (readNested fuel depth) (Spells depth) := by
  induction depth with
  | zero =>
    intro gap spelled value rest isGap spells ends _
    obtain ⟨c, later, rfl, token, -⟩ := spells.begins
    rw [readNested_eq, skipSpace_append isGap, List.cons_append, skipSpace_cons token,
      ← List.cons_append, readToken_leaf spells ends]
  | succ depth ih =>
    intro gap spelled value rest isGap spells ends small
    obtain ⟨c, later, same, token, -⟩ := begins_spells (depth + 1) spelled value spells
    have reads : readNested fuel (depth + 1) (gap ++ (spelled ++ rest)) =
        readToken fuel (depth + 1) (spelled ++ rest) := by
      rw [readNested_eq, skipSpace_append isGap, same, List.cons_append, skipSpace_cons token]
    rw [reads]
    cases spells with
    | leaf spells => exact readToken_leaf spells ends fuel (depth + 1)
    | @array inside values listed =>
      simp only [List.length_cons, List.length_append, List.length_nil] at small
      have enough : inside.length < fuel := by omega
      have inner := elements_complete ih (begins_spells depth) listed (by omega) enough rest
      rw [List.cons_append, List.append_assoc, List.singleton_append, readToken, dispatch,
        readArray, inner]
      rfl
    | @object inside raw listed =>
      simp only [List.length_cons, List.length_append, List.length_nil] at small
      have enough : inside.length < fuel := by omega
      have inner := members_complete (namesComplete_readString _) (takeValue_complete ih) listed
        (by omega) enough [] rest
      rw [foldlM_addMember] at inner
      rw [List.cons_append, List.append_assoc, List.singleton_append, readToken, dispatch,
        readObject, inner]
      rfl

/-! ## Whole texts -/

/-- A text ends where nothing but blanks is left. -/
theorem atEnd_eq_ok_iff {α : Type} {value result : α} {rest : List Char} :
    atEnd value rest = .ok result ↔ value = result ∧ IsGap rest := by
  rw [atEnd]
  constructor
  · intro ends
    split at ends
    · next nothing =>
      cases ends
      obtain ⟨gap, isGap, whole⟩ := exists_gap rest
      rw [List.isEmpty_iff.mp nothing, List.append_nil] at whole
      exact ⟨rfl, whole ▸ isGap⟩
    · cases ends
  · rintro ⟨rfl, isGap⟩
    have blank : skipSpace rest = [] := by
      rw [← List.append_nil rest, skipSpace_append isGap]
      rfl
    rw [blank]
    rfl

/-- A whole text spells a value, with blanks around it, and within the limit of nesting. -/
def Spelled (text : String) (value : Value) : Prop :=
  ∃ before spelled after, text.toList = before ++ (spelled ++ after) ∧ IsGap before ∧
    IsGap after ∧ Spells nestingLimit spelled value

/-- A whole text spells an object of members, of which several may have one name. -/
def SpelledObject (text : String) (raw : List (String × Value)) : Prop :=
  ∃ before inside after, text.toList = before ++ '{' :: (inside ++ '}' :: after) ∧
    IsGap before ∧ IsGap after ∧ Listed (SpellsMember (Spells (nestingLimit - 1))) inside raw

theorem spelled_object_iff {text : String} {entries : List (String × Value)} :
    Spelled text (.object entries) ↔ ∃ raw, SpelledObject text raw ∧ gather raw = entries := by
  constructor
  · rintro ⟨before, spelled, after, whole, opens, closes, spells⟩
    have node : SpellsNode (Spells (nestingLimit - 1)) spelled (.object entries) := spells
    cases node with
    | leaf leaf => cases leaf
    | @object inside raw listed =>
      refine ⟨raw, ⟨before, inside, after, ?_, opens, closes, listed⟩, rfl⟩
      rw [whole, List.cons_append, List.append_assoc, List.singleton_append]
  · rintro ⟨raw, ⟨before, inside, after, whole, opens, closes, listed⟩, rfl⟩
    refine ⟨before, '{' :: (inside ++ ['}']), after, ?_, opens, closes, SpellsNode.object listed⟩
    rw [whole, List.cons_append, List.append_assoc, List.singleton_append]

/-- **A text is read as the value that it spells**, and as none if it spells none. -/
theorem Value.parse_eq_ok_iff {text : String} {value : Value} :
    Value.parse text = .ok value ↔ Spelled text value := by
  constructor
  · intro reads
    obtain ⟨⟨read, rest⟩, inner, ends⟩ := bind_eq_ok_iff.mp reads
    obtain ⟨rfl, closes⟩ := atEnd_eq_ok_iff.mp ends
    obtain ⟨before, spelled, opens, whole, spells⟩ := readNested_sound _ _ _ _ _ inner
    exact ⟨before, spelled, rest, whole, opens, closes, spells⟩
  · rintro ⟨before, spelled, after, whole, opens, closes, spells⟩
    have small : spelled.length ≤ text.toList.length := by
      rw [whole, List.length_append, List.length_append]
      omega
    have ends : EndsNumber after := by
      rw [← List.append_nil after]
      exact endsNumber_of_isGap closes endsNumber_nil
    have reads := readNested_complete _ nestingLimit _ _ value _ opens spells ends small
    rw [← whole] at reads
    exact bind_eq_ok_iff.mpr ⟨(value, after), reads, atEnd_eq_ok_iff.mpr ⟨rfl, closes⟩⟩

end SealedCredentials.Json
