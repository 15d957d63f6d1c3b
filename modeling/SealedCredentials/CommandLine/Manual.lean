/-!
# The manual

The program and each of its commands have a page.  A page says what its subject is for and how
it is called, and lists what may be given in sections of two columns.  The second column begins
two places after the longest entry of the first, so that the notes of a section stand under one
another.  A note on a variable of the environment shows its present value, unless the value is
a password.
-/

set_option autoImplicit false

namespace SealedCredentials.CommandLine.Manual

/-! ## Pages -/

/-- Something that may be given, and a note on it. -/
structure Entry where
  form : String
  note : String
  deriving DecidableEq, Repr

/-- A list of entries under one head. -/
structure Section where
  head : String
  entries : List Entry
  deriving DecidableEq, Repr

/-- What the manual says on one subject. -/
structure Page where
  purpose : String
  usage : String
  sections : List Section
  deriving DecidableEq, Repr

/-- The length of the longest entry. -/
def Section.width (part : Section) : Nat :=
  part.entries.foldl (fun width entry => max width entry.form.length) 0

/-- An entry in columns of which the first has the given width. -/
def Entry.line (width : Nat) (entry : Entry) : String :=
  "  " ++ entry.form ++ String.ofList (List.replicate (width - entry.form.length + 2) ' ') ++
    entry.note

/-- A section after an empty line. -/
def Section.lines (part : Section) : List String :=
  "" :: (part.head ++ ":") :: part.entries.map (Entry.line part.width)

/-- A page, line by line. -/
def Page.lines (page : Page) : List String :=
  page.purpose :: "" :: ("Usage: " ++ page.usage) :: page.sections.flatMap Section.lines

/-! ## What there is to say -/

/-- What the manual has a page on. -/
inductive Subject where
  | program
  | handshake
  | encrypt
  | login
  | register
  | manual
  deriving DecidableEq, Repr

/-- The subject that is named by commands. -/
def Subject.ofNames : List String → Option Subject
  | [] => some .program
  | ["handshake"] => some .handshake
  | ["encrypt"] => some .encrypt
  | ["login"] => some .login
  | ["register"] => some .register
  | ["help"] => some .manual
  | _ => none

/-- What a subject is for. -/
def Subject.purpose : Subject → String
  | .program => "Encrypted login and registration client"
  | .handshake => "Run the key exchange and report the session state"
  | .encrypt => "Encrypt each text into an envelope within one session"
  | .login => "Log in with encrypted credentials"
  | .register => "Register a new account with encrypted credentials"
  | .manual => "Print this message or the help of the given subcommand(s)"

/-- The note on a variable of the environment, with its present value. -/
def shown (environment : String → Option String) (name : String) : String :=
  "[env: " ++ name ++ "=" ++ (environment name).getD "" ++ "]"

/-- The entry of the question for help. -/
def helpEntry : Entry := ⟨"-h, --help", "Print help"⟩

/-- The entry of a password. -/
def passwordEntry : Entry := ⟨"    --password <PASSWORD>", "[env: AUTH_CLIENT_PASSWORD]"⟩

/-- The commands, each with what it is for. -/
def commandEntries : List Entry :=
  [⟨"handshake", Subject.handshake.purpose⟩, ⟨"encrypt", Subject.encrypt.purpose⟩,
    ⟨"login", Subject.login.purpose⟩, ⟨"register", Subject.register.purpose⟩,
    ⟨"help", Subject.manual.purpose⟩]

/-- The options that stand before a command. -/
def commonEntries (environment : String → Option String) : List Entry :=
  [⟨"-c, --config <CONFIG>", "JSON config file " ++ shown environment "AUTH_CLIENT_CONFIG"⟩,
    ⟨"-s, --server <SERVER>", "API server base URL " ++ shown environment "AUTH_CLIENT_SERVER"⟩,
    ⟨"    --timeout <TIMEOUT>", "Key exchange timeout in seconds"⟩,
    ⟨"    --group <GROUP>", "Diffie-Hellman group (legacy, modp2048)"⟩,
    helpEntry, ⟨"-V, --version", "Print version"⟩]

/-- How a subject is called. -/
def Subject.usage : Subject → String
  | .program => "auth-client [OPTIONS] <COMMAND>"
  | .handshake => "auth-client handshake"
  | .encrypt => "auth-client encrypt <TEXTS>..."
  | .login => "auth-client login --password <PASSWORD> <USERNAME>"
  | .register => "auth-client register --password <PASSWORD> --role <ROLE> <USERNAME>"
  | .manual => "auth-client help [COMMAND]..."

/-- What may be given to a subject. -/
def Subject.sections (environment : String → Option String) : Subject → List Section
  | .program =>
    [⟨"Commands", commandEntries⟩, ⟨"Options", commonEntries environment⟩]
  | .handshake => [⟨"Options", [helpEntry]⟩]
  | .encrypt => [⟨"Arguments", [⟨"<TEXTS>...", ""⟩]⟩, ⟨"Options", [helpEntry]⟩]
  | .login =>
    [⟨"Arguments", [⟨"<USERNAME>", ""⟩]⟩, ⟨"Options", [passwordEntry, helpEntry]⟩]
  | .register =>
    [⟨"Arguments", [⟨"<USERNAME>", ""⟩]⟩,
      ⟨"Options",
        [passwordEntry, ⟨"    --role <ROLE>", "Account role, sent unencrypted"⟩, helpEntry]⟩]
  | .manual => [⟨"Arguments", [⟨"[COMMAND]...", "Print help for the subcommand(s)"⟩]⟩]

/-- The page on a subject, given the variables of the environment. -/
def Subject.page (environment : String → Option String) (subject : Subject) : Page :=
  ⟨subject.purpose, subject.usage, subject.sections environment⟩

end SealedCredentials.CommandLine.Manual
