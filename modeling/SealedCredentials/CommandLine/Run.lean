import SealedCredentials.Client.Alone
import SealedCredentials.CommandLine.Arguments

/-!
# Running a command

The settings are the standard ones, or those of a settings file; what the arguments name goes
before both.  A client is set up from them and carries out the command.  A run ends with an
exit code, the lines it prints and, if it failed, its complaint.
-/

set_option autoImplicit false

namespace SealedCredentials.CommandLine

open SealedCredentials.Envelope

/-! ## Complaints -/

/-- Why a file cannot be read. -/
inductive FileFault where
  | missing
  | directory
  | notDirectory
  | notText
  | other (text : String)
  deriving DecidableEq, Repr

/-- The wording of a fault. -/
def FileFault.message : FileFault → String
  | .missing => "No such file or directory (os error 2)"
  | .directory => "Is a directory (os error 21)"
  | .notDirectory => "Not a directory (os error 20)"
  | .notText => "stream did not contain valid UTF-8"
  | .other text => text

/-- Why a command was not carried out. -/
inductive Complaint where
  | unreadable (path : String) (cause : FileFault)
  | badSettings (path : String) (cause : Json.Fault)
  | unknownGroup (name : String) (cause : Fault)
  | noClient (cause : Client.Fault)
  | noHandshake (cause : Fault)
  | notEncrypted (cause : Fault)
  | aborted (action : String) (cause : Client.Fault)
  | refused (action : String) (outcome : Http.Outcome)
  deriving DecidableEq, Repr

/-- A complaint and what lies behind it, each in its own wording. -/
def Complaint.chain : Complaint → List String
  | .unreadable path cause => ["Failed to read config file " ++ path, cause.message]
  | .badSettings path cause => ["Invalid config file " ++ path, cause.message]
  | .unknownGroup name cause => ("Unknown Diffie-Hellman group '" ++ name ++ "'") :: cause.chain
  | .noClient cause => "Failed to set up client" :: cause.chain
  | .noHandshake cause => "Key exchange failed" :: cause.chain
  | .notEncrypted cause => "Encryption failed" :: cause.chain
  | .aborted action cause => (action ++ " aborted") :: cause.chain
  | .refused action outcome => [action ++ " failed: " ++ outcome.message]

/-- A complaint as it is printed: what lies behind it follows, numbered if it is more than one
thing. -/
def Complaint.text (complaint : Complaint) : String :=
  match complaint.chain with
  | [] => ""
  | [only] => "Error: " ++ only
  | [outer, cause] => "Error: " ++ outer ++ "\n\nCaused by:\n    " ++ cause
  | outer :: causes =>
    "Error: " ++ outer ++ "\n\nCaused by:" ++
      String.join (causes.zipIdx.map fun (cause, place) =>
        "\n    " ++ Arithmetic.Decimal.ofNat place ++ ": " ++ cause)

/-! ## Settings -/

/-- The settings of a file. -/
def loadSettings (readFile : String → Except FileFault String) (path : String) :
    Except Complaint Settings :=
  match readFile path with
  | .error fault => .error (.unreadable path fault)
  | .ok text =>
    match Settings.parse text with
    | .error fault => .error (.badSettings path fault)
    | .ok settings => .ok settings

/-- Settings with what the arguments name. -/
def Invocation.override (invocation : Invocation) (settings : Settings) : Settings :=
  { settings with
    serverUrl := invocation.server.getD settings.serverUrl
    handshakeSeconds := invocation.timeout.getD settings.handshakeSeconds
    group := (invocation.group.map Agreement.Group.name).getD settings.group }

/-- The settings that hold for an invocation. -/
def Invocation.settings (invocation : Invocation)
    (readFile : String → Except FileFault String) : Except Complaint Settings := do
  let settings ←
    match invocation.settingsFile with
    | some path => loadSettings readFile path
    | none => pure .standard
  return invocation.override settings

/-- The group that settings name. -/
def groupOf (settings : Settings) : Except Complaint Agreement.Group :=
  match Client.groupOf settings with
  | .ok group => .ok group
  | .error fault => .error (.unknownGroup settings.group fault)

/-! ## Commands -/

/-- The random numbers of a run: one for the exponent, and one for each salt. -/
structure Draws where
  exponent : Nat
  salt : Nat → Nat

/-- What a run printed, and its complaint if it failed. -/
structure Report where
  output : List String
  complaint : Option Complaint
  deriving DecidableEq, Repr

/-- How a run ends. -/
structure Ending where
  code : Nat
  output : List String
  complaint : Option Complaint
  deriving DecidableEq, Repr

/-- The ending that a report stands for. -/
def Report.ending (report : Report) : Ending :=
  ⟨if report.complaint.isSome then 1 else 0, report.output, report.complaint⟩

/-- A report of a failure before anything was printed. -/
def Report.ofComplaint (complaint : Complaint) : Report := ⟨[], some complaint⟩

/-- What asking the channel came to. -/
def asked (state : Client.State) (config : Client.Config) (wire : Http.Wire)
    (call : Channel.Call) : Client.State × Channel.Result :=
  match state.perform config wire (.channel call) with
  | (state, some (.ok (.channel product))) => (state, .ok product)
  | (state, some (.error (.channel fault))) => (state, .error fault)
  | (state, _) => (state, .error (.handshake (.timedOut config.channel.limit)))

/-- A handshake. -/
def reportHandshake (config : Client.Config) (wire : Http.Wire) (identifier : String) :
    Client.State × Report :=
  match asked (.fresh 0) config wire .ensure with
  | (state, .ok _) => (state, ⟨["session " ++ identifier ++ " " ++ state.channel.phase], none⟩)
  | (state, .error fault) => (state, .ofComplaint (.noHandshake fault))

/-- Envelopes of texts, one line each, up to the first that cannot be sealed. -/
def reportEnvelopes (config : Client.Config) (wire : Http.Wire) (salt : Nat → Nat) :
    Nat → Client.State → List String → Client.State × Report
  | _, state, [] => (state, ⟨[], none⟩)
  | place, state, text :: texts =>
    match asked state config wire (.sealText text (Salt.ofRandom (salt place))) with
    | (state, .ok (.envelope wireText)) =>
      let (state, report) := reportEnvelopes config wire salt (place + 1) state texts
      (state, { report with output := wireText :: report.output })
    | (state, .ok .ready) => reportEnvelopes config wire salt (place + 1) state texts
    | (state, .error fault) => (state, .ofComplaint (.notEncrypted fault))

/-- The report on the outcome of a submission. -/
def submitted (action : String) (outcome : Http.Outcome) : Report :=
  if outcome.success then
    ⟨(action ++ " succeeded: " ++ outcome.message) ::
      (if outcome.token.isSome then ["auth token received"] else []), none⟩
  else .ofComplaint (.refused action outcome)

/-- A submission of credentials. -/
def reportSubmission (config : Client.Config) (wire : Http.Wire) (salt : Nat → Nat)
    (action : String) (form : Client.Form) (username password : String) :
    Client.State × Report :=
  let submission : Client.Submission :=
    ⟨form, username, password, Salt.ofRandom (salt 0), Salt.ofRandom (salt 1)⟩
  match Client.State.perform (.fresh 0) config wire (.submit submission) with
  | (state, some (.ok (.outcome outcome))) => (state, submitted action outcome)
  | (state, some (.error fault)) => (state, .ofComplaint (.aborted action fault))
  | (state, _) =>
    (state, .ofComplaint
      (.aborted action (.channel (.handshake (.timedOut config.channel.limit)))))

/-- A command, carried out by a fresh client. -/
def Command.run (command : Command) (config : Client.Config) (wire : Http.Wire)
    (draws : Draws) (identifier : String) : Client.State × Report :=
  match command with
  | .handshake => reportHandshake config wire identifier
  | .encrypt texts => reportEnvelopes config wire draws.salt 0 (.fresh 0) texts
  | .login username password =>
    reportSubmission config wire draws.salt "Login" .login username password
  | .register username password role =>
    reportSubmission config wire draws.salt "Registration" (.registration role) username password

/-- The client of an invocation: settings, group and address are looked at in this order. -/
def Invocation.client (invocation : Invocation)
    (readFile : String → Except FileFault String) (random : Nat)
    (resolver : Address.Resolver) : Except Complaint Client.Config := do
  let settings ← invocation.settings readFile
  let group ← groupOf settings
  match Client.Config.ofSettings settings group random resolver with
  | .ok config => return config
  | .error fault => throw (.noClient fault)

/-- An invocation from beginning to end: the client at its end if one could be set up, and the
report. -/
def Invocation.run (invocation : Invocation) (readFile : String → Except FileFault String)
    (wire : Http.Wire) (draws : Draws) (identifier : String) (resolver : Address.Resolver) :
    Option Client.State × Report :=
  match invocation.client readFile draws.exponent resolver with
  | .error complaint => (none, .ofComplaint complaint)
  | .ok config =>
    let (state, report) := invocation.command.run config wire draws identifier
    (some state, report)

/-- The name and the version of the program. -/
def versionLine : String := "auth-client 0.1.0"

/-- A run of the program with its arguments. -/
def run (environment : String → Option String) (readFile : String → Except FileFault String)
    (wire : Http.Wire) (draws : Draws) (identifier : String) (arguments : List String)
    (resolver : Address.Resolver := .plain) : Ending :=
  match readDemand environment arguments with
  | none => ⟨2, [], none⟩
  | some .version => ⟨0, [versionLine], none⟩
  | some (.manual subject) => ⟨0, (subject.page environment).lines, none⟩
  | some (.invoke invocation) =>
    (invocation.run readFile wire draws identifier resolver).2.ending

end SealedCredentials.CommandLine
