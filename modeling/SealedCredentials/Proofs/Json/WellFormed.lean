import SealedCredentials.Proofs.Json.Reader

/-!
# Values that are stepped over

What nobody asks for is stepped over, and only its spelling is checked.  This takes more texts than
reading does (`WellFormed`): half of a pair may stand alone in a string, a number may be too large
for any value, and there is no limit of nesting.  Exactly these texts are stepped over, each to its
end (`wellFormed_of_skipValue`, `skipValue_complete`); the induction is on the nesting, which the
length of a text bounds.

A string that is stepped over may be one that cannot be read.  Where it ends is settled all the same
(`IsText.unique`), so what follows it plays no part in how it is read (`readString_alone`).
-/

set_option autoImplicit false

namespace SealedCredentials.Json

/-! ## Strings -/

/-- A piece of a string that is stepped over.  A unit is a piece of its own, whatever it spells. -/
inductive IsPiece : List Char → Prop where
  | plain {c : Char} (quote : c ≠ '"') (backslash : c ≠ '\\') (printable : 0x20 ≤ c.toNat) :
      IsPiece [c]
  | letter {letter c : Char} (stands : unescape? letter = some c) : IsPiece ['\\', letter]
  | unit {digits : List Char} {value : Nat} (spelled : SpellsUnit digits value) :
      IsPiece ('\\' :: 'u' :: digits)

/-- What stands between the quotes of a string that is stepped over. -/
inductive IsText : List Char → Prop where
  | nil : IsText []
  | cons {piece rest : List Char} (head : IsPiece piece) (tail : IsText rest) :
      IsText (piece ++ rest)

/-- A piece is passed as one character or another. -/
theorem IsPiece.passes {piece : List Char} (isPiece : IsPiece piece) :
    ∃ c, Passes false piece c := by
  cases isPiece with
  | plain quote backslash printable =>
    exact ⟨_, by simp, stringFrom_plain quote backslash printable false⟩
  | letter stands => exact ⟨_, by simp, stringFrom_letter stands false⟩
  | unit spelled => exact ⟨_, by simp, fun rest => (stringFrom_escaped spelled false rest).1⟩

theorem IsText.passes {spelled : List Char} (isText : IsText spelled) (rest : List Char) :
    ∃ characters, stringFrom false .plain (spelled ++ '"' :: rest) = .ok (characters, rest) := by
  induction isText with
  | nil => exact ⟨[], rfl⟩
  | cons head _ ih =>
    obtain ⟨c, -, passes⟩ := head.passes
    obtain ⟨characters, later⟩ := ih
    refine ⟨c :: characters, ?_⟩
    rw [List.append_assoc, passes, later]
    rfl

/-- **A string is stepped over up to its closing quote.** -/
theorem skipString_of_isText {spelled : List Char} (isText : IsText spelled) (rest : List Char) :
    skipString (spelled ++ '"' :: rest) = .ok rest := by
  obtain ⟨characters, passes⟩ := isText.passes rest
  rw [skipString, passes]

/-- What is stepped over inside a string is its closing quote or a piece. -/
theorem piece_of_skipped {text : List Char} {read : List Char × List Char}
    (reads : stringFrom false .plain text = .ok read) :
    (∃ rest, text = '"' :: rest ∧ read = ([], rest)) ∨
      ∃ piece later, text = piece ++ later ∧ IsPiece piece := by
  rcases cases_of_stringFrom reads with
    closing | ⟨c, later, rfl, quote, backslash, printable⟩ | ⟨later, rfl, escaped⟩
  · exact .inl closing
  · exact .inr ⟨[c], later, rfl, .plain quote backslash printable⟩
  · rcases cases_of_escape escaped with
      ⟨digits, value, after, rfl, spelled, -⟩ | ⟨-, letter, c, after, rfl, stands⟩
    · exact .inr ⟨_, after, rfl, .unit spelled⟩
    · exact .inr ⟨['\\', letter], after, rfl, .letter stands⟩

theorem isText_of_skipString {text rest : List Char} (skips : skipString text = .ok rest) :
    ∃ spelled, text = spelled ++ '"' :: rest ∧ IsText spelled := by
  rw [skipString] at skips
  split at skips
  · next characters after reads =>
    cases skips
    -- the character is kept only to say that the piece is passed
    refine exists_pieces (fun piece c => IsPiece piece ∧ Passes false piece c)
      (fun spelled _ => IsText spelled) ?_ ?_ IsText.nil ?_ reads
    · intro text read reads
      refine (piece_of_skipped reads).imp_right ?_
      rintro ⟨piece, later, whole, isPiece⟩
      obtain ⟨c, passes⟩ := isPiece.passes
      exact ⟨piece, c, later, whole, isPiece, passes⟩
    · intro piece c passed
      exact passed.2
    · intro piece c spelled text head tail
      exact .cons head.1 tail
  · cases skips

/-- There is only one place where a string can end. -/
theorem IsText.unique {first second rest left : List Char} (isText : IsText first)
    (also : IsText second) (same : first ++ '"' :: rest = second ++ '"' :: left) :
    first = second ∧ rest = left := by
  have ends := skipString_of_isText also left
  rw [← same, skipString_of_isText isText rest] at ends
  obtain rfl := Except.ok.inj ends
  exact ⟨List.append_cancel_right same, rfl⟩

/-- What can be read can be stepped over: a pair is two pieces. -/
theorem SpellsText.isText {spelled text : List Char} (spells : SpellsText spelled text) :
    IsText spelled := by
  induction spells with
  | nil => exact .nil
  | cons head _ ih =>
    cases head with
    | plain quote backslash printable => exact .cons (.plain quote backslash printable) ih
    | letter stands => exact .cons (.letter stands) ih
    | unit spelled => exact .cons (.unit spelled) ih
    | pair first second =>
      rw [List.append_assoc]
      exact .cons (.unit first) (.cons (.unit second) ih)

theorem prepend_eq_error {c : Char} {result : Except Fault (List Char × List Char)}
    {fault : Fault} (failed : prepend c result = .error fault) : result = .error fault := by
  cases result with
  | ok read => cases failed
  | error cause =>
    cases failed
    rfl

/-- There is only one fault that a string can have. -/
theorem stringFrom_error {strict : Bool} {mode : Mode} {text : List Char} {fault : Fault}
    (failed : stringFrom strict mode text = .error fault) : fault = .malformed := by
  fun_induction stringFrom strict mode text with
  | case2 => cases failed
  -- here reading goes on, without a character or with one more
  | case3 _ _ ih | case6 _ _ ih | case11 _ _ _ _ _ _ _ ih | case13 _ _ _ _ _ _ _ _ ih
  | case15 _ _ ih => exact ih failed
  | case5 _ _ _ _ _ ih | case8 _ _ _ _ _ _ _ ih | case12 _ _ _ _ _ _ _ _ ih =>
    exact ih (prepend_eq_error failed)
  | case1 | case4 | case7 | case9 | case10 | case14 | case16 =>
    cases failed
    rfl

/-- A string that can be stepped over but spells nothing is malformed. -/
theorem readString_of_isText {spelled : List Char} (isText : IsText spelled)
    (nothing : ∀ text, ¬SpellsText spelled text) (rest : List Char) :
    readString (spelled ++ '"' :: rest) = .error .malformed := by
  cases reads : stringFrom true .plain (spelled ++ '"' :: rest) with
  | ok read =>
    obtain ⟨characters, left⟩ := read
    obtain ⟨other, same, spells⟩ := stringFrom_eq_ok_iff.mp reads
    obtain ⟨rfl, -⟩ := isText.unique spells.isText same
    exact absurd spells (nothing characters)
  | error fault => rw [readString, reads, stringFrom_error reads]

/-- **What follows a string plays no part in how it is read.** -/
theorem readString_alone {spelled : List Char} (isText : IsText spelled) (rest : List Char) :
    readString (spelled ++ '"' :: rest) =
      (readString (spelled ++ ['"'])).map fun read => (read.1, rest) := by
  by_cases readable : ∃ text, SpellsText spelled text
  · obtain ⟨text, spells⟩ := readable
    have spells : SpellsText spelled (String.ofList text).toList := by rwa [String.toList_ofList]
    rw [readString_eq_ok_iff.mpr ⟨spelled, rfl, spells⟩,
      readString_eq_ok_iff.mpr ⟨spelled, rfl, spells⟩]
    rfl
  · have nothing := not_exists.mp readable
    rw [readString_of_isText isText nothing, readString_of_isText isText nothing]
    rfl

/-! ## Values -/

/-- A word, a number or a string. -/
inductive IsLeaf : List Char → Prop where
  | nullWord : IsLeaf ['n', 'u', 'l', 'l']
  | trueWord : IsLeaf ['t', 'r', 'u', 'e']
  | falseWord : IsLeaf ['f', 'a', 'l', 's', 'e']
  | number {spelled : List Char} {literal : Literal} (spells : SpellsLiteral spelled literal) :
      IsLeaf spelled
  | text {spelled : List Char} (isText : IsText spelled) : IsLeaf ('"' :: (spelled ++ ['"']))

/-- A member that is stepped over: nothing is kept of its name and its value. -/
inductive IsMember (inner : List Char → Unit → Prop) : List Char → Unit × Unit → Prop where
  | named {spelled tail : List Char} (isText : IsText spelled) (holds : SpellsTail inner tail ()) :
      IsMember inner ('"' :: (spelled ++ '"' :: tail)) ((), ())

/-- A value around others: a leaf, an array or an object. -/
inductive IsNode (inner : List Char → Unit → Prop) : List Char → Unit → Prop where
  | leaf {spelled : List Char} (isLeaf : IsLeaf spelled) : IsNode inner spelled ()
  | array {inside : List Char} {count : List Unit} (listed : Listed inner inside count) :
      IsNode inner ('[' :: (inside ++ [']'])) ()
  | object {inside : List Char} {count : List (Unit × Unit)}
      (listed : Listed (IsMember inner) inside count) : IsNode inner ('{' :: (inside ++ ['}'])) ()

/-- A value of at most so many levels. -/
def HasLevels : Nat → List Char → Unit → Prop
  | 0 => fun _ _ => False
  | levels + 1 => IsNode (HasLevels levels)

/-- A value of any nesting, as far as its spelling goes. -/
def WellFormed (text : List Char) : Prop := ∃ levels, HasLevels levels text ()

theorem IsLeaf.wellFormed {spelled : List Char} (isLeaf : IsLeaf spelled) : WellFormed spelled :=
  ⟨1, IsNode.leaf isLeaf⟩

theorem SpellsLeaf.isLeaf {spelled : List Char} {value : Value}
    (spells : SpellsLeaf spelled value) : IsLeaf spelled := by
  cases spells with
  | nullWord => exact .nullWord
  | trueWord => exact .trueWord
  | falseWord => exact .falseWord
  | number spells =>
    obtain ⟨literal, spelt, -⟩ := spells.spellsLiteral
    exact .number spelt
  | text spells => exact .text spells.isText

/-- A value is a leaf, or its first character tells what it is. -/
theorem WellFormed.leaf_or_bracket {text : List Char} (wellFormed : WellFormed text) :
    IsLeaf text ∨ (∃ later, text = '[' :: later) ∨ ∃ later, text = '{' :: later := by
  obtain ⟨levels, node⟩ := wellFormed
  cases levels with
  | zero => exact node.elim
  | succ levels =>
    cases node with
    | leaf isLeaf => exact .inl isLeaf
    | array => exact .inr (.inl ⟨_, rfl⟩)
    | object => exact .inr (.inr ⟨_, rfl⟩)

theorem IsLeaf.begins {spelled : List Char} (isLeaf : IsLeaf spelled) :
    ∃ c later, spelled = c :: later ∧ isSpace c = false ∧ c ≠ ']' ∧ c ≠ '}' := by
  cases isLeaf with
  | nullWord => exact ⟨_, _, rfl, rfl, by decide, by decide⟩
  | trueWord => exact ⟨_, _, rfl, rfl, by decide, by decide⟩
  | falseWord => exact ⟨_, _, rfl, rfl, by decide, by decide⟩
  | text => exact ⟨_, _, rfl, rfl, by decide, by decide⟩
  | number spells =>
    obtain ⟨c, later, rfl, first⟩ := spells.begins
    exact ⟨c, later, rfl, first.token⟩

theorem WellFormed.begins {text : List Char} (wellFormed : WellFormed text) :
    ∃ c later, text = c :: later ∧ isSpace c = false ∧ c ≠ ']' ∧ c ≠ '}' := by
  rcases wellFormed.leaf_or_bracket with isLeaf | ⟨later, rfl⟩ | ⟨later, rfl⟩
  · exact isLeaf.begins
  · exact ⟨_, _, rfl, rfl, by decide, by decide⟩
  · exact ⟨_, _, rfl, rfl, by decide, by decide⟩

theorem begins_hasLevels (levels : Nat) : Begins (HasLevels levels) :=
  fun _ _ has => WellFormed.begins ⟨levels, has⟩

/-! ## Stepping over a value -/

/-- An array that is stepped over, after its bracket. -/
def skipArray (fuel : Nat) : Nat → List Char → Except Fault (Unit × List Char)
  | 0, _ => .error .malformed
  | depth + 1, rest => do
    let (_, rest) ← elements (skipNested fuel depth) fuel rest
    return ((), rest)

/-- A member that is stepped over, after its name. -/
def skipTail (fuel depth : Nat) (_ _ : Unit) (rest : List Char) :
    Except Fault (Unit × List Char) := do
  skipNested fuel depth (← afterColon rest)

/-- An object that is stepped over, after its brace. -/
def skipObject (fuel : Nat) : Nat → List Char → Except Fault (Unit × List Char)
  | 0, _ => .error .malformed
  | depth + 1, rest => members skipName (skipTail fuel depth) fuel () rest

/-- What is stepped over behind the blanks at the head of a text. -/
def skipToken (fuel depth : Nat) : List Char → Except Fault (Unit × List Char) :=
  dispatch (fun _ word rest => (expectWord word rest).map ((), ·)) skipName
    (skipArray fuel depth) (skipObject fuel depth)
    fun text => (lexNumber text).map fun (_, rest) => ((), rest)

theorem skipNested_eq (fuel depth : Nat) (text : List Char) :
    skipNested fuel depth text = skipToken fuel depth (skipSpace text) := by
  rw [skipNested.eq_def]
  cases depth with
  | zero => rfl
  | succ depth => rfl

/-! ### Soundness -/

theorem skipArray_sound {fuel depth levels : Nat}
    (sound : Sound (skipNested fuel depth) (HasLevels levels)) :
    SoundAfter ['['] (skipArray fuel (depth + 1)) (HasLevels (levels + 1)) := by
  intro text _ rest skips
  obtain ⟨⟨count, _⟩, inner, given⟩ := bind_eq_ok_iff.mp skips
  cases given
  obtain ⟨inside, rfl, listed⟩ := elements_sound sound inner
  exact ⟨_, by simp, IsNode.array listed⟩

theorem namesSound_skipName (inner : List Char → Unit → Prop) :
    NamesSound skipName inner (IsMember inner) := by
  intro text _ rest skips
  obtain ⟨after, string, given⟩ := bind_eq_ok_iff.mp skips
  cases given
  obtain ⟨spelled, rfl, isText⟩ := isText_of_skipString string
  exact ⟨spelled, rfl, fun tail _ holds => .named isText holds⟩

theorem skipTail_sound {inner : List Char → Unit → Prop} {fuel depth : Nat}
    (sound : Sound (skipNested fuel depth) inner) :
    TakesSound (skipTail fuel depth) inner fun _ _ => .ok () := by
  intro _ _ text _ rest taken
  obtain ⟨behind, colon, skips⟩ := bind_eq_ok_iff.mp taken
  obtain ⟨before, opens, rfl⟩ := afterColon_eq_ok_iff.mp colon
  obtain ⟨after, spelled, closes, rfl, has⟩ := sound _ _ _ skips
  exact ⟨_, (), by simp, .colon opens closes has, rfl⟩

theorem skipObject_sound {fuel depth levels : Nat}
    (sound : Sound (skipNested fuel depth) (HasLevels levels)) :
    SoundAfter ['{'] (skipObject fuel (depth + 1)) (HasLevels (levels + 1)) := by
  intro text _ rest skips
  obtain ⟨inside, count, rfl, listed, -⟩ :=
    members_sound (namesSound_skipName _) (skipTail_sound sound) skips
  exact ⟨_, by simp, IsNode.object listed⟩

theorem skipToken_sound {fuel depth levels : Nat}
    (arrays : SoundAfter ['['] (skipArray fuel depth) (HasLevels (levels + 1)))
    (objects : SoundAfter ['{'] (skipObject fuel depth) (HasLevels (levels + 1))) :
    SoundAfter [] (skipToken fuel depth) (HasLevels (levels + 1)) := by
  refine dispatch_sound ?_ ?_ arrays objects ?_
  · intro first later meant leaf
    exact expectWord_sound (IsNode.leaf leaf.isLeaf)
  · intro text _ rest skips
    obtain ⟨after, string, given⟩ := bind_eq_ok_iff.mp skips
    cases given
    obtain ⟨spelled, rfl, isText⟩ := isText_of_skipString string
    exact ⟨'"' :: (spelled ++ ['"']), by simp, IsNode.leaf (.text isText)⟩
  · intro text _ rest skips
    obtain ⟨⟨literal, after⟩, lexed, given⟩ := map_eq_ok_iff.mp skips
    cases given
    obtain ⟨spelled, whole, spells⟩ := lexNumber_sound lexed
    exact ⟨spelled, whole, IsNode.leaf (.number spells)⟩

/-- **What is stepped over is a value**, with one level more than arrays and objects may be open. -/
theorem skipNested_sound (fuel depth : Nat) :
    Sound (skipNested fuel depth) (HasLevels (depth + 1)) := by
  induction depth with
  | zero =>
    refine sound_of_token (skipNested_eq fuel 0) (skipToken_sound ?_ ?_)
    · intro text _ rest impossible
      cases impossible
    · intro text _ rest impossible
      cases impossible
  | succ depth ih =>
    exact sound_of_token (skipNested_eq fuel (depth + 1))
      (skipToken_sound (skipArray_sound ih) (skipObject_sound ih))

theorem wellFormed_of_skipValue {text rest : List Char} (skips : skipValue text = .ok rest) :
    ∃ gap written, IsGap gap ∧ text = gap ++ (written ++ rest) ∧ WellFormed written := by
  obtain ⟨⟨_, after⟩, nested, given⟩ := bind_eq_ok_iff.mp skips
  cases given
  obtain ⟨gap, written, isGap, whole, has⟩ := skipNested_sound _ _ _ _ _ nested
  exact ⟨gap, written, isGap, whole, _, has⟩

/-! ### Completeness -/

theorem skipToken_leaf {spelled rest : List Char} (isLeaf : IsLeaf spelled)
    (ends : EndsNumber rest) (fuel depth : Nat) :
    skipToken fuel depth (spelled ++ rest) = .ok ((), rest) := by
  cases isLeaf with
  | nullWord => rfl
  | trueWord => rfl
  | falseWord => rfl
  | number spells =>
    obtain ⟨c, later, rfl, first⟩ := spells.begins
    have lexed := lexNumber_complete spells ends
    rw [List.cons_append] at lexed ⊢
    rw [skipToken, dispatch_number first, lexed]
    rfl
  | text isText =>
    rw [List.cons_append, List.append_assoc, List.singleton_append, skipToken, dispatch, skipName,
      skipString_of_isText isText]
    rfl

theorem namesComplete_skipName (inner : List Char → Unit → Prop) :
    NamesComplete skipName inner (IsMember inner) := by
  intro text member isMember
  cases isMember with
  | @named spelled tail isText holds =>
    refine ⟨spelled, tail, rfl, fun rest => ?_, holds⟩
    rw [skipName, skipString_of_isText isText]
    rfl

theorem skipTail_complete {inner : List Char → Unit → Prop} {bound fuel depth : Nat}
    (complete : Complete bound (skipNested fuel depth) inner) :
    TakesComplete bound (skipTail fuel depth) inner fun _ _ => .ok () := by
  intro _ _ tail _ rest holds ends small
  obtain ⟨gap, text, isGap, has, shorter, colon⟩ := exists_afterColon holds rest
  have skips := complete gap text () rest isGap has ends (Nat.le_trans shorter small)
  simp only [skipTail, colon, bind, Except.bind, skips]
  rfl

/-- **A value is stepped over**, with as much fuel and depth as it has characters. -/
theorem skipNested_complete (levels fuel depth : Nat) :
    Complete (min fuel depth) (skipNested fuel depth) (HasLevels levels) := by
  induction levels generalizing depth with
  | zero =>
    intro _ _ _ _ _ impossible
    exact impossible.elim
  | succ levels ih =>
    intro gap spelled _ rest isGap has ends small
    obtain ⟨c, later, same, token, -⟩ := begins_hasLevels _ _ _ has
    have skips : skipNested fuel depth (gap ++ (spelled ++ rest)) =
        skipToken fuel depth (spelled ++ rest) := by
      rw [skipNested_eq, skipSpace_append isGap, same, List.cons_append, skipSpace_cons token]
    rw [skips]
    cases has with
    | leaf isLeaf => exact skipToken_leaf isLeaf ends fuel depth
    | @array inside count listed =>
      simp only [List.length_cons, List.length_append, List.length_nil] at small
      obtain ⟨depth, rfl⟩ := Nat.exists_eq_add_one.mpr (show 0 < depth by omega)
      have inner := elements_complete (ih depth) (begins_hasLevels levels) listed (by omega)
        (show inside.length < fuel by omega) rest
      rw [List.cons_append, List.append_assoc, List.singleton_append, skipToken, dispatch,
        skipArray, inner]
      rfl
    | @object inside count listed =>
      simp only [List.length_cons, List.length_append, List.length_nil] at small
      obtain ⟨depth, rfl⟩ := Nat.exists_eq_add_one.mpr (show 0 < depth by omega)
      have inner := members_complete (namesComplete_skipName _) (skipTail_complete (ih depth))
        listed (by omega) (show inside.length < fuel by omega) () rest
      have none : count.foldlM (fun _ _ => Except.ok ()) () = (.ok () : Except Fault Unit) :=
        List.foldlM_pure ..
      rw [none] at inner
      rw [List.cons_append, List.append_assoc, List.singleton_append, skipToken, dispatch,
        skipObject, inner]
      rfl

/-- **A value is stepped over up to its end**, whatever its nesting. -/
theorem skipValue_complete {gap written rest : List Char} (isGap : IsGap gap)
    (wellFormed : WellFormed written) (ends : EndsNumber rest) :
    skipValue (gap ++ (written ++ rest)) = .ok rest := by
  obtain ⟨levels, has⟩ := wellFormed
  have small : written.length ≤ (gap ++ (written ++ rest)).length := by
    rw [List.length_append, List.length_append]
    omega
  have skips := skipNested_complete levels _ _ gap written () rest isGap has ends
    (Nat.le_min.mpr ⟨small, small⟩)
  rw [skipValue, skips]
  rfl

end SealedCredentials.Json
