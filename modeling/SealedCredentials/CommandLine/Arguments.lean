import SealedCredentials.Agreement.Parameters
import SealedCredentials.Arithmetic.Decimal
import SealedCredentials.CommandLine.Manual

/-!
# Arguments

The options stand before the command; a command takes what follows it.  An option is spelled
in full or by its letter, and its value follows it, after an equals sign or as the next
argument; it may be given once.  An argument that begins with a hyphen is no value, unless it
is a lone hyphen or follows a double one.  Some values come from variables of the environment
if their option is not given.

A question for the version or for help is answered where it stands, so nothing after it is
looked at.  A value that is an argument of its own is judged only when the next option is read,
and the last one when the command has been read; so help on a command does not wait for it.
-/

set_option autoImplicit false

namespace SealedCredentials.CommandLine

/-! ## What can be asked for -/

/-- What is to be done. -/
inductive Command where
  | handshake
  | encrypt (texts : List String)
  | login (username password : String)
  | register (username password role : String)
  deriving DecidableEq, Repr

/-- A command and the settings that the arguments and the environment name. -/
structure Invocation where
  settingsFile : Option String
  server : Option String
  timeout : Option UInt64
  group : Option Agreement.Group
  command : Command
  deriving DecidableEq, Repr

/-- What the arguments amount to. -/
inductive Demand where
  | version
  | manual (subject : Manual.Subject)
  | invoke (invocation : Invocation)
  deriving DecidableEq, Repr

/-! ## Single arguments -/

/-- An argument by its form. -/
inductive Token where
  | plain (text : String)
  | escape
  | long (name : String) (value : Option String)
  | short (letters : List Char)
  deriving DecidableEq, Repr

/-- The form of an argument. -/
def Token.ofArgument (argument : String) : Token :=
  match argument.toList with
  | ['-', '-'] => .escape
  | '-' :: '-' :: rest =>
    let name := rest.takeWhile (· != '=')
    let value :=
      match rest.drop name.length with
      | '=' :: value => some (String.ofList value)
      | _ => none
    .long (String.ofList name) value
  | ['-'] => .plain argument
  | '-' :: letters => .short letters
  | _ => .plain argument

/-- An option: its name and its letter. -/
structure Flag where
  name : String
  letter : Option Char
  deriving DecidableEq, Repr

/-- The option that an argument names, and the value attached to it. -/
def Token.option? (flags : List Flag) : Token → Option (String × Option String)
  | .long name value =>
    (flags.find? fun flag => flag.name == name).map fun flag => (flag.name, value)
  | .short (letter :: rest) =>
    (flags.find? fun flag => flag.letter == some letter).map fun flag =>
      match rest with
      | [] => (flag.name, none)
      | '=' :: value => (flag.name, some (String.ofList value))
      | value => (flag.name, some (String.ofList value))
  | _ => none

/-- Whether an argument can be the value of an option before it. -/
def isValue (argument : String) : Bool :=
  match Token.ofArgument argument with
  | .plain _ => true
  | _ => false

/-- Whether an argument asks for the version. -/
def Token.asksVersion : Token → Bool
  | .long "version" none => true
  | .short ('V' :: _) => true
  | _ => false

/-- Whether an argument asks for help. -/
def Token.asksHelp : Token → Bool
  | .long "help" none => true
  | .short ('h' :: _) => true
  | _ => false

/-! ## Lists of arguments -/

/-- Options with their values. -/
abbrev Options := List (String × String)

/-- An unsigned integer of 64 bits, perhaps with a plus sign. -/
def readCount (text : String) : Option UInt64 :=
  let digits :=
    match text.toList with
    | '+' :: digits => digits
    | digits => digits
  let value := Arithmetic.Decimal.value digits
  if digits.isEmpty || !digits.all Arithmetic.Decimal.isDigit || Nat.pow 2 64 ≤ value then none
  else some (UInt64.ofNat value)

/-- Whether a value will do for an option. -/
def accepts (name value : String) : Bool :=
  match name with
  | "config" => !value.isEmpty
  | "timeout" => (readCount value).isSome
  | "group" => (Agreement.Group.ofName value).toBool
  | _ => true

/-- Options with one more, unless it is there already or its value will not do. -/
def Options.add (options : Options) (name value : String) : Option Options :=
  if (options.lookup name).isSome || !accepts name value then none
  else some (options ++ [(name, value)])

/-- Options with one that has not been judged yet. -/
def Options.settle (options : Options) : Option (String × String) → Option Options
  | none => some options
  | some (name, value) => options.add name value

/-- The options that stand before the command. -/
def commonFlags : List Flag :=
  [⟨"config", some 'c'⟩, ⟨"server", some 's'⟩, ⟨"timeout", none⟩, ⟨"group", none⟩]

/-- What stands before the arguments of a command. -/
inductive Opening where
  | version
  | help
  | command (options : Options) (unjudged : Option (String × String)) (name : String)
      (rest : List String)

/-- The options before a command, and the command. -/
def readOpening (options : Options) (unjudged : Option (String × String)) :
    List String → Option Opening
  | [] => none
  | argument :: rest =>
    match Token.ofArgument argument with
    | .plain name => some (.command options unjudged name rest)
    | token => do
      let options ← options.settle unjudged
      if token.asksVersion then some .version
      else if token.asksHelp then some .help
      else
        match token.option? commonFlags with
        | some (name, some value) => do readOpening (← options.add name value) none rest
        | some (name, none) =>
          match rest with
          | value :: rest =>
            if isValue value then readOpening options (some (name, value)) rest else none
          | [] => none
        | none => none

/-- What stands after a command. -/
inductive Remainder where
  | help
  | given (options : Options) (plain : List String)

/-- The options of a command and its plain arguments, of which there are at most so many. -/
def readRest (flags : List Flag) (most : Option Nat) (options : Options)
    (unjudged : Option (String × String)) (plain : List String) :
    List String → Option Remainder
  | [] => do return .given (← options.settle unjudged) plain
  | argument :: rest =>
    match Token.ofArgument argument with
    | .plain text =>
      if most.any (· ≤ plain.length) then none
      else readRest flags most options unjudged (plain ++ [text]) rest
    | .escape => do
      if most.any (· < plain.length + rest.length) then none
      else return .given (← options.settle unjudged) (plain ++ rest)
    | token => do
      let options ← options.settle unjudged
      if token.asksHelp then some .help
      else
        match token.option? flags with
        | some (name, some value) => do
          readRest flags most (← options.add name value) none plain rest
        | some (name, none) =>
          match rest with
          | value :: rest =>
            if isValue value then readRest flags most options (some (name, value)) plain rest
            else none
          | [] => none
        | none => none

/-- A value from an option or else from a variable. -/
def Options.value? (options : Options) (name backup : String)
    (environment : String → Option String) : Option String :=
  (options.lookup name).or (environment backup)

/-- The command of a name with the options and the plain arguments that were given to it. -/
def Command.ofParts (environment : String → Option String) (name : String) (options : Options)
    (plain : List String) : Option Command :=
  let password? := options.value? "password" "AUTH_CLIENT_PASSWORD" environment
  match name, plain with
  | "handshake", [] => some .handshake
  | "encrypt", text :: texts => some (.encrypt (text :: texts))
  | "login", [username] => do return .login username (← password?)
  | "register", [username] => do
    return .register username (← password?) (← options.lookup "role")
  | _, _ => none

/-- The options of a command and the greatest number of its plain arguments, if there is such
a command and such a number. -/
def signature? : String → Option (List Flag × Option Nat)
  | "handshake" => some ([], some 0)
  | "encrypt" => some ([], none)
  | "login" => some ([⟨"password", none⟩], some 1)
  | "register" => some ([⟨"password", none⟩, ⟨"role", none⟩], some 1)
  | _ => none

/-- What a command and the arguments after it ask for, given the options before it. -/
def readCommand (environment : String → Option String) (options : Options)
    (unjudged : Option (String × String)) (name : String) (rest : List String) :
    Option Demand := do
  let (flags, most) ← signature? name
  match ← readRest flags most [] none [] rest with
  | .help => return .manual (← Manual.Subject.ofNames [name])
  | .given own plain =>
    let command ← Command.ofParts environment name own plain
    let options ← options.settle unjudged
    let settingsFile := options.value? "config" "AUTH_CLIENT_CONFIG" environment
    if settingsFile = some "" then none
    else
      return .invoke
        { settingsFile
          server := options.value? "server" "AUTH_CLIENT_SERVER" environment
          timeout := (options.lookup "timeout").bind readCount
          group := (options.lookup "group").bind fun name =>
            (Agreement.Group.ofName name).toOption
          command }

/-- What arguments ask for, given the variables of the environment; nothing if they make no
sense. -/
def readDemand (environment : String → Option String) (arguments : List String) :
    Option Demand := do
  match ← readOpening [] none arguments with
  | .version => return .version
  | .help => return .manual .program
  | .command options unjudged name rest =>
    if name = "help" then return .manual (← Manual.Subject.ofNames rest)
    else readCommand environment options unjudged name rest

end SealedCredentials.CommandLine
