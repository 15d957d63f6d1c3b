import SealedCredentials.Http.Outcome
import SealedCredentials.Proofs.Text.Blank
import SealedCredentials.Proofs.Text.Utf8

/-!
# What an outcome says of a response

The status decides alone whether a submission was successful, the text of the body alone whether
there is a report, and the cookies alone whether there is a token (`Response.outcome_describes`).

The token is the value of a cookie.  A cookie carries one if it is readable and what stands before
its first semicolon gives a value to the right name (`Carries`); the first cookie that does counts
(`Head.token_eq_some_iff`).  Attributes come after the semicolon, so they are not taken for the
cookie itself, and a value may hold equals signs: a token without semicolons and outer blanks comes
back as it was set (`Head.token_of_set`).
-/

set_option autoImplicit false

namespace SealedCredentials.Http

/-! ## Statuses and bodies -/

theorem isSuccess_iff {status : Nat} :
    isSuccess status = true ↔ 200 ≤ status ∧ status < 300 := by
  simp only [isSuccess, Bool.and_eq_true, decide_eq_true_eq]

/-- Every text is the text of some body. -/
theorem Response.text_ofString (head : Head) (text : String) :
    (Response.mk head (Text.Utf8.ofString text)).text = text := by
  rw [Response.text, Text.Utf8.ofString, Text.Utf8.decodeLossy_encode, String.ofList_toList]

/-! ## Readable header values -/

/-- A header value can be read: all of it is visible ASCII, spaces and tabs. -/
def Readable (value : List UInt8) : Prop :=
  ∀ byte ∈ value, (0x20 ≤ byte.toNat ∧ byte.toNat < 0x7F) ∨ byte.toNat = 0x09

/-- The characters of the bytes of a header value. -/
def characters (value : List UInt8) : List Char := value.map fun byte => Char.ofNat byte.toNat

theorem headerText_eq_some_iff {value : List UInt8} {text : List Char} :
    headerText value = some text ↔ Readable value ∧ text = characters value := by
  have readable : (value.all fun byte => (0x20 ≤ byte && byte < 0x7F) || byte == 0x09) = true ↔
      Readable value := by
    simp only [Readable, List.all_eq_true, Bool.or_eq_true, Bool.and_eq_true, decide_eq_true_eq,
      beq_iff_eq, UInt8.le_iff_toNat_le, UInt8.lt_iff_toNat_lt, ← UInt8.toNat_inj,
      UInt8.reduceToNat]
  rw [headerText, Option.ite_none_right_eq_some, readable, Option.some.injEq, characters,
    eq_comm (a := text)]

/-! ## Cookies -/

/-- What stands in front of the first occurrence of a character. -/
theorem takeWhile_ne_eq_iff {mark : Char} {text front : List Char} :
    text.takeWhile (· != mark) = front ↔
      mark ∉ front ∧ ∃ rest, text = front ++ rest ∧ ∀ c ∈ rest.head?, c = mark := by
  constructor
  · rintro rfl
    refine ⟨fun member => ?_, text.dropWhile (· != mark), ?_, ?_⟩
    · simpa using List.mem_takeWhile_imp member
    · rw [List.takeWhile_append_dropWhile]
    · intro c first
      have stopped := List.head?_dropWhile_not (· != mark) text
      rw [first] at stopped
      simpa using stopped
  · rintro ⟨free, rest, rfl, stops⟩
    have all : ∀ c ∈ front, (c != mark) = true := by
      intro c member
      rw [bne_iff_ne]
      rintro rfl
      exact free member
    have none : rest.takeWhile (· != mark) = [] := by
      cases rest with
      | nil => rfl
      | cons c later => rw [List.takeWhile_cons_of_neg (by simp [stops c rfl])]
    rw [List.takeWhile_append_of_pos all, none, List.append_nil]

/-- A text sets the token: what stands before its first semicolon is a name, which is `authToken`
but for blanks around it, an equals sign, and a value, which is the token but for blanks around
it. -/
def Sets (text : List Char) (token : String) : Prop :=
  ∃ name value attributes, text = name ++ '=' :: value ++ attributes ∧
    ('=' ∉ name ∧ ';' ∉ name ∧ ';' ∉ value ∧ ∀ c ∈ attributes.head?, c = ';') ∧
    Text.Trims name "authToken".toList ∧ Text.Trims value token.toList

/-- What is read from a text whose first part is a name, an equals sign and a value. -/
theorem tokenOf_of_parts {name value attributes : List Char} (noEquals : '=' ∉ name)
    (noSemicolon : ';' ∉ name ++ '=' :: value) (stops : ∀ c ∈ attributes.head?, c = ';') :
    tokenOf (name ++ '=' :: value ++ attributes) =
      if Text.trimmed name = tokenCookie.toList then some (String.ofList (Text.trimmed value))
      else none := by
  have pair : (name ++ '=' :: value ++ attributes).takeWhile (· != ';') = name ++ '=' :: value :=
    takeWhile_ne_eq_iff.mpr ⟨noSemicolon, attributes, rfl, stops⟩
  have front : (name ++ '=' :: value).takeWhile (· != '=') = name :=
    takeWhile_ne_eq_iff.mpr ⟨noEquals, '=' :: value, rfl, by simp⟩
  simp only [tokenOf, pair, front, List.drop_left]

/-- No token is read from a text whose first part has no equals sign. -/
theorem tokenOf_of_nameless {pair attributes : List Char} (noEquals : '=' ∉ pair)
    (noSemicolon : ';' ∉ pair) (stops : ∀ c ∈ attributes.head?, c = ';') :
    tokenOf (pair ++ attributes) = none := by
  have whole : (pair ++ attributes).takeWhile (· != ';') = pair :=
    takeWhile_ne_eq_iff.mpr ⟨noSemicolon, attributes, rfl, stops⟩
  have front : pair.takeWhile (· != '=') = pair :=
    takeWhile_ne_eq_iff.mpr ⟨noEquals, [], (List.append_nil pair).symm, by simp⟩
  simp only [tokenOf, whole, front, List.drop_length]

/-- **A token is read from the texts that set it.** -/
theorem tokenOf_eq_some_iff {text : List Char} {token : String} :
    tokenOf text = some token ↔ Sets text token := by
  constructor
  · intro read
    obtain ⟨noSemicolon, attributes, whole, stops⟩ :=
      takeWhile_ne_eq_iff.mp (rfl : text.takeWhile (· != ';') = _)
    generalize text.takeWhile (· != ';') = pair at noSemicolon whole
    subst whole
    obtain ⟨noEquals, rest, split, begins⟩ :=
      takeWhile_ne_eq_iff.mp (rfl : pair.takeWhile (· != '=') = _)
    generalize pair.takeWhile (· != '=') = name at noEquals split
    subst split
    cases rest with
    | nil =>
      rw [List.append_nil] at read noSemicolon
      rw [tokenOf_of_nameless noEquals noSemicolon stops] at read
      cases read
    | cons mark value =>
      cases begins mark rfl
      rw [tokenOf_of_parts noEquals noSemicolon stops, Option.ite_none_right_eq_some] at read
      obtain ⟨called, same⟩ := read
      rw [List.mem_append, List.mem_cons, not_or, not_or] at noSemicolon
      refine ⟨name, value, attributes, rfl,
        ⟨noEquals, noSemicolon.1, noSemicolon.2.2, stops⟩, Text.trimmed_eq_iff.mp called, ?_⟩
      rw [← Option.some.inj same, String.toList_ofList]
      exact Text.trims_trimmed value
  · rintro ⟨name, value, attributes, rfl, ⟨noEquals, plainName, plainValue, stops⟩, called, set⟩
    have noSemicolon : ';' ∉ name ++ '=' :: value := by
      simp [plainName, plainValue]
    have named : Text.trimmed name = tokenCookie.toList := Text.trimmed_eq_iff.mpr called
    rw [tokenOf_of_parts noEquals noSemicolon stops, if_pos named,
      Text.trimmed_eq_iff.mpr set, String.ofList_toList]

/-- A header value carries a token: it is readable, and its text sets the token. -/
def Carries (value : List UInt8) (token : String) : Prop :=
  Readable value ∧ Sets (characters value) token

/-- The first of some header values that carries a token carries this one. -/
def FirstCarries (values : List (List UInt8)) (token : String) : Prop :=
  ∃ earlier value later, values = earlier ++ value :: later ∧ Carries value token ∧
    ∀ other ∈ earlier, ∀ another, ¬ Carries other another

theorem bind_tokenOf_eq_some_iff {value : List UInt8} {token : String} :
    (headerText value).bind tokenOf = some token ↔ Carries value token := by
  simp only [Option.bind_eq_some_iff, headerText_eq_some_iff, tokenOf_eq_some_iff, Carries]
  constructor
  · rintro ⟨text, ⟨readable, rfl⟩, sets⟩
    exact ⟨readable, sets⟩
  · rintro ⟨readable, sets⟩
    exact ⟨_, ⟨readable, rfl⟩, sets⟩

/-- **The token of a response is the one that the first cookie with a token carries.** -/
theorem Head.token_eq_some_iff {head : Head} {token : String} :
    head.token = some token ↔ FirstCarries head.cookies token := by
  simp only [Head.token, List.findSome?_eq_some_iff, bind_tokenOf_eq_some_iff, FirstCarries,
    Option.eq_none_iff_forall_ne_some, ne_eq]

/-! ## Setting a token -/

/-- The characters of a readable value that was written as a text are those of the text. -/
theorem characters_ofString {text : String} (readable : Readable (Text.Utf8.ofString text)) :
    characters (Text.Utf8.ofString text) = text.toList := by
  have ascii : ∀ byte ∈ Text.Utf8.ofString text, byte.toNat < 0x80 := by
    intro byte member
    rcases readable byte member with ⟨-, low⟩ | tab
    · omega
    · omega
  have same : Text.Utf8.ofString (String.ofList (characters (Text.Utf8.ofString text))) =
      Text.Utf8.ofString text := by
    rw [Text.Utf8.ofString, String.toList_ofList]
    exact Text.Utf8.encode_map_ofNat ascii
  rw [← congrArg String.toList (Text.Utf8.ofString_injective same), String.toList_ofList]

/-- A token without semicolons and without blanks at its ends is carried by the cookie that sets it,
whatever attributes the cookie has. -/
theorem carries_of_set {token attributes : String} (plain : ';' ∉ token.toList)
    (bare : Text.trim token = token)
    (readable : Readable (Text.Utf8.ofString ("authToken=" ++ token ++ "; " ++ attributes))) :
    Carries (Text.Utf8.ofString ("authToken=" ++ token ++ "; " ++ attributes)) token := by
  refine ⟨readable, "authToken".toList, token.toList, ';' :: ' ' :: attributes.toList,
    ?_, ?_, ?_, ?_⟩
  · rw [characters_ofString readable]
    simp
  · exact ⟨by decide, by decide, plain, by simp⟩
  · exact Text.trimmed_eq_iff.mp (by decide +kernel)
  · have same : Text.trimmed token.toList = token.toList := by
      rw [← String.ofList_inj, String.ofList_toList]
      exact bare
    exact Text.trimmed_eq_iff.mp same

/-- **A token comes back as it was set.**  It may hold equals signs, and neither later cookies nor
earlier ones without a token matter. -/
theorem Head.token_of_set {head : Head} {token attributes : String}
    {earlier later : List (List UInt8)}
    (cookies : head.cookies =
      earlier ++ Text.Utf8.ofString ("authToken=" ++ token ++ "; " ++ attributes) :: later)
    (plain : ';' ∉ token.toList) (bare : Text.trim token = token)
    (readable : Readable (Text.Utf8.ofString ("authToken=" ++ token ++ "; " ++ attributes)))
    (first : ∀ other ∈ earlier, ∀ another, ¬ Carries other another) :
    head.token = some token :=
  Head.token_eq_some_iff.mpr
    ⟨earlier, _, later, cookies, carries_of_set plain bare readable, first⟩

/-! ## Outcomes -/

/-- An outcome says of a response what can be read off its status, its text and its cookies. -/
structure Outcome.Describes (outcome : Outcome) (response : Response) : Prop where
  status : outcome.status = response.head.status
  success : outcome.success = true ↔ 200 ≤ response.head.status ∧ response.head.status < 300
  report (report : Message.StatusReport) :
    outcome.report = some report ↔ Message.StatusReport.parse response.text = .ok report
  token (token : String) : outcome.token = some token ↔ FirstCarries response.head.cookies token

/-- **Every response has its outcome.** -/
theorem Response.outcome_describes (response : Response) :
    response.outcome.Describes response where
  status := rfl
  success := isSuccess_iff
  report report := by
    rw [Response.outcome]
    cases Message.StatusReport.parse response.text with
    | ok read => simp [Except.toOption]
    | error fault => simp [Except.toOption]
  token _ := Head.token_eq_some_iff

namespace Outcome.Describes

variable {outcome other : Outcome} {response another : Response}

theorem success_congr (describes : outcome.Describes response) (also : other.Describes another)
    (same : response.head.status = another.head.status) : outcome.success = other.success := by
  rw [Bool.eq_iff_iff, describes.success, also.success, same]

theorem report_congr (describes : outcome.Describes response) (also : other.Describes another)
    (same : response.text = another.text) : outcome.report = other.report := by
  refine Option.ext fun report => ?_
  rw [describes.report, also.report, same]

theorem token_congr (describes : outcome.Describes response) (also : other.Describes another)
    (same : response.head.cookies = another.head.cookies) : outcome.token = other.token := by
  refine Option.ext fun token => ?_
  rw [describes.token, also.token, same]

end Outcome.Describes

end SealedCredentials.Http
