import SealedCredentials.CommandLine.Arguments

/-!
# How an encryption is asked for

Options stand before the command, each spelled as one argument or as two (`Spells`), and the texts
stand behind it, after a double hyphen if need be (`Operands`).  However they are spelled, the
options come to the same: one after the other is judged (`Options.addAll`), and unless one is
refused, the invocation holds what they say, or else what the environment says
 (`readDemand_encrypt`). Arguments of any other form do not ask for an encryption
 (`asks_encryption_iff`).
-/

set_option autoImplicit false

namespace SealedCredentials.CommandLine

/-! ## Spellings -/

/-- An option with its value, as one argument or as two. -/
inductive SpellsOption (flags : List Flag) : List String → String × String → Prop where
  | attached {argument name value : String}
      (names : (Token.ofArgument argument).option? flags = some (name, some value)) :
      SpellsOption flags [argument] (name, value)
  | separate {argument name value : String}
      (names : (Token.ofArgument argument).option? flags = some (name, none))
      (follows : isValue value = true) : SpellsOption flags [argument, value] (name, value)

/-- Options with their values, in the order in which they are given. -/
inductive Spells (flags : List Flag) : List String → Options → Prop where
  | nil : Spells flags [] []
  | cons {front rest : List String} {option : String × String} {options : Options}
      (head : SpellsOption flags front option) (tail : Spells flags rest options) :
      Spells flags (front ++ rest) (option :: options)

/-- Texts as arguments.  A text that begins with a hyphen, and is not just one, has to stand behind
a double hyphen. -/
inductive Operands : List String → List String → Prop where
  | nil : Operands [] []
  | escape (texts : List String) : Operands ("--" :: texts) texts
  | cons {text : String} {rest texts : List String} (plain : isValue text = true)
      (tail : Operands rest texts) : Operands (text :: rest) (text :: texts)

/-- Options with more of them, each judged in turn. -/
def Options.addAll (options : Options) : Options → Option Options
  | [] => some options
  | (name, value) :: later => (options.add name value).bind (·.addAll later)

/-! ## Single arguments -/

/-- A plain argument stands for itself. -/
theorem Token.eq_of_ofArgument {argument text : String}
    (plain : Token.ofArgument argument = .plain text) : text = argument := by
  unfold ofArgument at plain
  split at plain
  · cases plain
  · cases plain
  · exact (Token.plain.inj plain).symm
  · cases plain
  · exact (Token.plain.inj plain).symm

/-- Only a double hyphen is an escape. -/
theorem Token.eq_of_ofArgument_escape {argument : String}
    (form : Token.ofArgument argument = .escape) : argument = "--" := by
  unfold ofArgument at form
  split at form
  next characters =>
    apply String.toList_injective
    rw [characters]
    rfl
  all_goals cases form

theorem Token.ofArgument_of_isValue {argument : String} (plain : isValue argument = true) :
    Token.ofArgument argument = .plain argument := by
  unfold isValue at plain
  cases form : Token.ofArgument argument with
  | plain text => rw [Token.eq_of_ofArgument form]
  | escape | long | short =>
    rw [form] at plain
    cases plain

/-- Where there are no options, none is named. -/
theorem Token.option?_nil (token : Token) : token.option? [] = none := by
  cases token with
  | plain | escape | long => rfl
  | short letters => cases letters <;> rfl

/-- What names an option asks neither for the version nor for help. -/
theorem Token.asks_nothing {token : Token} {given : String × Option String}
    (names : token.option? commonFlags = some given) :
    token.asksVersion = false ∧ token.asksHelp = false := by
  have unlettered (letter : Char)
      (absent : commonFlags.find? (fun flag => flag.letter == some letter) = none)
      (rest : List Char) : Token.option? commonFlags (.short (letter :: rest)) = none := by
    simp only [option?, absent, Option.map_none]
  constructor
  · unfold asksVersion
    split
    · cases names
    · rw [unlettered 'V' (by decide)] at names
      cases names
    · rfl
  · unfold asksHelp
    split
    · cases names
    · rw [unlettered 'h' (by decide)] at names
      cases names
    · rfl

/-! ## The options before a command -/

/-- An option makes the one before it be judged, and is read with its value. -/
theorem readOpening_option {argument : String} {given : String × Option String}
    (names : (Token.ofArgument argument).option? commonFlags = some given) (options : Options)
    (unjudged : Option (String × String)) (rest : List String) :
    readOpening options unjudged (argument :: rest) =
      (options.settle unjudged).bind fun options =>
        match given, rest with
        | (name, some value), rest =>
          (options.add name value).bind fun options => readOpening options none rest
        | (name, none), value :: rest =>
          if isValue value then readOpening options (some (name, value)) rest else none
        | (_, none), [] => none := by
  obtain ⟨unversioned, unhelped⟩ := Token.asks_nothing names
  rw [readOpening]
  generalize Token.ofArgument argument = token at names unversioned unhelped ⊢
  cases token with
  | plain text => cases names
  | escape => cases names
  | long | short =>
    simp only [unversioned, unhelped, names, Bool.false_eq_true, if_false]
    obtain ⟨name, value | _⟩ := given
    · cases rest <;> rfl
    · rfl

/-- However an option is spelled, the reader goes on with it, perhaps still to be judged, or it has
been refused. -/
theorem readOpening_spellsOption {front : List String} {name value : String}
    (spells : SpellsOption commonFlags front (name, value)) (options : Options)
    (unjudged : Option (String × String)) (rest : List String) :
    let judged := (options.settle unjudged).bind (·.add name value)
    (judged = none ∧ readOpening options unjudged (front ++ rest) = none) ∨
      ∃ next last, next.settle last = judged ∧
        readOpening options unjudged (front ++ rest) = readOpening next last rest := by
  intro judged
  have settles : judged = (options.settle unjudged).bind (·.add name value) := rfl
  cases settled : options.settle unjudged with
  | none =>
    rw [settled, Option.bind_none] at settles
    left
    cases spells with
    | attached names =>
      rw [List.singleton_append, readOpening_option names, settled]
      exact ⟨settles, rfl⟩
    | separate names follows =>
      rw [List.cons_append, readOpening_option names, settled]
      exact ⟨settles, rfl⟩
  | some before =>
    rw [settled, Option.bind_some] at settles
    cases spells with
    | attached names =>
      rw [List.singleton_append, readOpening_option names, settled, settles]
      cases added : before.add name value with
      | none => exact .inl ⟨rfl, by simp only [Option.bind_some, added, Option.bind_none]⟩
      | some next =>
        exact .inr ⟨next, none, rfl, by simp only [Option.bind_some, added]⟩
    | separate names follows =>
      -- the value is judged when the next option is read, or the command
      rw [List.cons_append, readOpening_option names, settled]
      exact .inr ⟨before, some (name, value), settles.symm, if_pos follows⟩

/-- **However options are spelled, they are judged one after the other.**  The reader comes to the
command with all of them, the last one perhaps still to be judged, or one has been refused. -/
theorem readOpening_spells {spelled : List String} {own : Options}
    (spells : Spells commonFlags spelled own) {name : String} (plain : isValue name = true)
    (rest : List String) (options : Options) (unjudged : Option (String × String)) :
    let judged := (options.settle unjudged).bind (·.addAll own)
    (judged = none ∧ readOpening options unjudged (spelled ++ name :: rest) = none) ∨
      ∃ before last, before.settle last = judged ∧
        readOpening options unjudged (spelled ++ name :: rest) =
          some (.command before last name rest) := by
  induction spells generalizing options unjudged with
  | nil =>
    right
    refine ⟨options, unjudged, ?_, ?_⟩
    · cases options.settle unjudged <;> rfl
    · rw [List.nil_append, readOpening, Token.ofArgument_of_isValue plain]
  | @cons front later option own head tail ih =>
    obtain ⟨named, value⟩ := option
    have chained : (options.settle unjudged).bind (·.addAll ((named, value) :: own)) =
        ((options.settle unjudged).bind (·.add named value)).bind (·.addAll own) := by
      rw [Option.bind_assoc]
      rfl
    rw [chained, List.append_assoc]
    rcases readOpening_spellsOption head options unjudged (later ++ name :: rest) with
      ⟨refused, stops⟩ | ⟨next, last, settles, goesOn⟩
    · left
      rw [refused, stops]
      exact ⟨rfl, rfl⟩
    · rw [← settles, goesOn]
      exact ih next last

/-! ## The texts behind a command -/

/-- However texts are given, a command that takes any number of them gets them all. -/
theorem readRest_operands {operands texts : List String} (given : Operands operands texts)
    (flags : List Flag) (options : Options) (plain : List String) :
    readRest flags none options none plain operands = some (.given options (plain ++ texts)) := by
  induction given generalizing plain with
  | nil =>
    rw [readRest, List.append_nil]
    rfl
  | escape texts =>
    have escape : Token.ofArgument "--" = .escape := by decide
    rw [readRest, escape]
    rfl
  | @cons text rest texts value tail ih =>
    rw [readRest, Token.ofArgument_of_isValue value]
    simp only [Option.any_none, Bool.false_eq_true, if_false]
    rw [ih, List.append_assoc]
    rfl

/-! ## Options that have been judged -/

/-- Options that are not refused are those that were given, in their order. -/
theorem Options.addAll_eq {own options all : Options} (added : options.addAll own = some all) :
    all = options ++ own := by
  induction own generalizing options with
  | nil =>
    rw [addAll] at added
    rw [List.append_nil, Option.some.inj added]
  | cons option later ih =>
    obtain ⟨name, value⟩ := option
    rw [addAll] at added
    obtain ⟨next, one, rest⟩ := Option.bind_eq_some_iff.mp added
    rw [add] at one
    split at one
    · cases one
    · rw [ih rest, ← Option.some.inj one, List.append_assoc]
      rfl

/-- The invocation for an encryption with options, unless it names no settings file with an empty
path. -/
def encryption (environment : String → Option String) (options : Options) (texts : List String) :
    Invocation where
  settingsFile := options.value? "config" "AUTH_CLIENT_CONFIG" environment
  server := options.value? "server" "AUTH_CLIENT_SERVER" environment
  timeout := (options.lookup "timeout").bind readCount
  group := (options.lookup "group").bind fun name => (Agreement.Group.ofName name).toOption
  command := .encrypt texts

/-- An encryption is asked for once its options have been judged. -/
theorem readCommand_encrypt (environment : String → Option String) {operands texts : List String}
    (given : Operands operands texts) (nonempty : texts ≠ []) (options : Options)
    (unjudged : Option (String × String)) :
    readCommand environment options unjudged "encrypt" operands =
      (options.settle unjudged).bind fun options =>
        if options.value? "config" "AUTH_CLIENT_CONFIG" environment = some "" then none
        else some (.invoke (encryption environment options texts)) := by
  obtain ⟨text, rest, rfl⟩ := List.exists_cons_of_ne_nil nonempty
  have signed : signature? "encrypt" = some ([], none) := by decide
  have command : Command.ofParts environment "encrypt" [] (text :: rest) =
      some (.encrypt (text :: rest)) := rfl
  simp only [readCommand, signed, readRest_operands given, List.nil_append, command, bind,
    Option.bind_some]
  rfl

/-- **What asks for an encryption.**  It is refused if an option is, or if an empty path is named
for the settings file; otherwise the invocation holds what the options and the environment say. -/
theorem readDemand_encrypt (environment : String → Option String) {spelled operands : List String}
    {own : Options} {texts : List String} (spells : Spells commonFlags spelled own)
    (given : Operands operands texts) (nonempty : texts ≠ []) :
    readDemand environment (spelled ++ "encrypt" :: operands) =
      if Options.addAll [] own = some own ∧
          own.value? "config" "AUTH_CLIENT_CONFIG" environment ≠ some "" then
        some (.invoke (encryption environment own texts))
      else none := by
  have plain : isValue "encrypt" = true := by decide
  have start : (Options.settle [] none).bind (·.addAll own) = Options.addAll [] own := rfl
  rcases readOpening_spells spells plain operands [] none with
    ⟨refused, stops⟩ | ⟨before, last, settles, opens⟩
  · rw [start] at refused
    rw [readDemand, stops, refused, if_neg (by simp)]
    rfl
  · rw [start] at settles
    have asked : readDemand environment (spelled ++ "encrypt" :: operands) =
        readCommand environment before last "encrypt" operands := by
      rw [readDemand, opens]
      rfl
    rw [asked, readCommand_encrypt environment given nonempty, settles]
    cases judged : Options.addAll [] own with
    | none => rw [Option.bind_none, if_neg (by simp)]
    | some all =>
      rw [Options.addAll_eq judged, List.nil_append, Option.bind_some]
      by_cases blank : own.value? "config" "AUTH_CLIENT_CONFIG" environment = some ""
      · rw [if_pos blank, if_neg (by simp [blank])]
      · rw [if_neg blank, if_pos ⟨rfl, blank⟩]

/-! ## Nothing else asks for an encryption -/

/-- What stands before a command is an option. -/
theorem option?_of_readOpening {options before : Options}
    {unjudged last : Option (String × String)} {argument name : String} {rest left : List String}
    (opens : readOpening options unjudged (argument :: rest) =
      some (.command before last name left)) :
    (argument = name ∧ rest = left) ∨
      ∃ given, (Token.ofArgument argument).option? commonFlags = some given := by
  rw [readOpening] at opens
  cases form : Token.ofArgument argument with
  | plain text =>
    left
    rw [form] at opens
    cases opens
    exact ⟨(Token.eq_of_ofArgument form).symm, rfl⟩
  | escape | long | short =>
    right
    apply Option.ne_none_iff_exists'.mp
    intro unnamed
    simp only [form, unnamed] at opens
    obtain ⟨_, -, opens⟩ := Option.bind_eq_some_iff.mp opens
    split at opens
    · cases opens
    · split at opens <;> cases opens

/-- Only options stand before a command. -/
theorem exists_spells_of_readOpening {arguments : List String} {options before : Options}
    {unjudged last : Option (String × String)} {name : String} {left : List String}
    (opens : readOpening options unjudged arguments = some (.command before last name left)) :
    ∃ spelled own, Spells commonFlags spelled own ∧ arguments = spelled ++ name :: left := by
  -- an option takes one argument or two, so the induction is on how many there are
  induction number : arguments.length using Nat.strongRecOn
    generalizing arguments options unjudged with
  | ind _ ih =>
    subst number
    cases arguments with
    | nil =>
      rw [readOpening] at opens
      cases opens
    | cons argument rest =>
      rcases option?_of_readOpening opens with ⟨rfl, rfl⟩ | ⟨⟨named, value⟩, names⟩
      · exact ⟨[], [], .nil, rfl⟩
      · rw [readOpening_option names] at opens
        obtain ⟨settled, -, opens⟩ := Option.bind_eq_some_iff.mp opens
        cases value with
        | some value =>
          obtain ⟨added, -, opens⟩ := Option.bind_eq_some_iff.mp opens
          have fewer : rest.length < (argument :: rest).length := Nat.lt_succ_self _
          obtain ⟨spelled, own, spells, rfl⟩ := ih _ fewer opens rfl
          exact ⟨_, _, .cons (.attached names) spells, rfl⟩
        | none =>
          cases rest with
          | nil => cases opens
          | cons value rest =>
            dsimp only at opens
            split at opens
            next follows =>
              have fewer : rest.length < (argument :: value :: rest).length := by
                simp only [List.length_cons]
                omega
              obtain ⟨spelled, own, spells, rfl⟩ := ih _ fewer opens rfl
              exact ⟨_, _, .cons (.separate names follows) spells, rfl⟩
            · cases opens

/-- Only texts stand behind a command that has no options. -/
theorem exists_operands_of_readRest {arguments : List String} {options own : Options}
    {plain all : List String}
    (reads : readRest [] none options none plain arguments = some (.given own all)) :
    ∃ texts, Operands arguments texts ∧ all = plain ++ texts := by
  induction arguments generalizing plain with
  | nil =>
    rw [readRest] at reads
    cases reads
    exact ⟨[], .nil, (List.append_nil _).symm⟩
  | cons argument rest ih =>
    rw [readRest] at reads
    cases form : Token.ofArgument argument with
    | plain text =>
      rw [form] at reads
      obtain rfl := Token.eq_of_ofArgument form
      obtain ⟨texts, given, rfl⟩ := ih reads
      have value : isValue text = true := by rw [isValue, form]
      exact ⟨text :: texts, .cons value given, List.append_cons .. |>.symm⟩
    | escape =>
      rw [form] at reads
      cases reads
      rw [Token.eq_of_ofArgument_escape form]
      exact ⟨rest, .escape rest, rfl⟩
    | long | short =>
      rw [form] at reads
      simp only [Options.settle, bind, Option.bind_some, Token.option?_nil] at reads
      split at reads <;> cases reads

/-- Only one command makes an encryption, and it needs a text. -/
theorem Command.of_ofParts_eq_encrypt {environment : String → Option String} {name : String}
    {options : Options} {plain texts : List String}
    (made : ofParts environment name options plain = some (.encrypt texts)) :
    name = "encrypt" ∧ plain = texts ∧ texts ≠ [] := by
  unfold ofParts at made
  split at made
  · cases made
  · cases made
    exact ⟨rfl, rfl, List.cons_ne_nil _ _⟩
  · obtain ⟨_, -, made⟩ := Option.bind_eq_some_iff.mp made
    cases made
  · obtain ⟨_, -, made⟩ := Option.bind_eq_some_iff.mp made
    obtain ⟨_, -, made⟩ := Option.bind_eq_some_iff.mp made
    cases made
  · cases made

/-- A command that leads to an encryption is followed by texts. -/
theorem exists_operands_of_readCommand {environment : String → Option String} {options : Options}
    {unjudged : Option (String × String)} {name : String} {rest texts : List String}
    {invocation : Invocation}
    (reads : readCommand environment options unjudged name rest = some (.invoke invocation))
    (asks : invocation.command = .encrypt texts) :
    name = "encrypt" ∧ Operands rest texts ∧ texts ≠ [] := by
  obtain ⟨⟨flags, most⟩, signed, reads⟩ := Option.bind_eq_some_iff.mp reads
  obtain ⟨remainder, left, reads⟩ := Option.bind_eq_some_iff.mp reads
  cases remainder with
  | help =>
    obtain ⟨_, -, reads⟩ := Option.bind_eq_some_iff.mp reads
    cases reads
  | given own plain =>
    obtain ⟨command, made, reads⟩ := Option.bind_eq_some_iff.mp reads
    obtain ⟨judged, -, reads⟩ := Option.bind_eq_some_iff.mp reads
    have invoked : command = invocation.command := by
      dsimp only at reads
      split at reads
      · cases reads
      · cases reads
        rfl
    rw [invoked, asks] at made
    obtain ⟨rfl, rfl, nonempty⟩ := Command.of_ofParts_eq_encrypt made
    have signature : signature? "encrypt" = some ([], none) := by decide
    cases signature.symm.trans signed
    obtain ⟨texts, given, rfl⟩ := exists_operands_of_readRest left
    exact ⟨rfl, given, nonempty⟩

/-- **What asks for an encryption**, and what does not: the arguments spell options, the command and
the texts, no option is refused, and no empty path is named for the settings file. -/
theorem asks_encryption_iff (environment : String → Option String)
    {arguments texts : List String} :
    (∃ invocation, readDemand environment arguments = some (.invoke invocation) ∧
        invocation.command = .encrypt texts) ↔
      ∃ spelled own operands, arguments = spelled ++ "encrypt" :: operands ∧
        Spells commonFlags spelled own ∧ Operands operands texts ∧ texts ≠ [] ∧
        Options.addAll [] own = some own ∧
        own.value? "config" "AUTH_CLIENT_CONFIG" environment ≠ some "" := by
  constructor
  · rintro ⟨invocation, demand, asks⟩
    obtain ⟨opening, opens, reads⟩ := Option.bind_eq_some_iff.mp demand
    cases opening with
    | version | help => cases reads
    | command options unjudged name rest =>
      obtain ⟨spelled, own, spells, rfl⟩ := exists_spells_of_readOpening opens
      change (if name = "help" then _ else _) = _ at reads
      split at reads
      · obtain ⟨subject, -, reads⟩ := Option.bind_eq_some_iff.mp reads
        cases reads
      · obtain ⟨rfl, given, nonempty⟩ := exists_operands_of_readCommand reads asks
        rw [readDemand_encrypt environment spells given nonempty] at demand
        split at demand
        next accepted => exact ⟨spelled, own, rest, rfl, spells, given, nonempty, accepted⟩
        · cases demand
  · rintro ⟨spelled, own, operands, rfl, spells, given, nonempty, accepted⟩
    exact ⟨_, (readDemand_encrypt environment spells given nonempty).trans (if_pos accepted), rfl⟩

end SealedCredentials.CommandLine
