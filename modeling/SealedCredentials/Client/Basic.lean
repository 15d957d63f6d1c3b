import SealedCredentials.Channel.Basic
import SealedCredentials.Http.Outcome
import SealedCredentials.Message.Submission
import SealedCredentials.Settings

/-!
# The client

A client has one channel to its server and submits credentials.  A submission seals the user
name, then the password, and only then is a request sent; if the channel gives no key, no
request is sent at all.  Several submissions may be under way at once.  Like the channel the
client is a transition system, and its state keeps every request that carried credentials.
-/

set_option autoImplicit false

namespace SealedCredentials.Client

open SealedCredentials.Envelope

/-! ## What a client is made of -/

/-- Why a client cannot do what it is asked for. -/
inductive Fault where
  | http (cause : Http.Fault)
  | address (cause : Address.Unusable)
  | channel (cause : SealedCredentials.Fault)
  deriving DecidableEq, Repr

/-- The wording of a fault. -/
def Fault.message : Fault → String
  | .http cause => "HTTP error: " ++ cause.message
  | .address cause => "Invalid URL: " ++ cause.message
  | .channel cause => "Encryption error: " ++ cause.message

/-- A fault and what lies behind it, each in its own wording. -/
def Fault.chain (fault : Fault) : List String :=
  fault.message ::
    match fault with
    | .channel cause => cause.chain
    | _ => []

/-- What a client is set up with: its channel, the address of key exchanges, where and how to
submit credentials, and what tells it the address of a path.  Spans are in nanoseconds. -/
structure Config where
  channel : Channel.Config
  keyExchange : Address
  server : String
  loginPath : String
  registerPath : String
  requestLimit : Nat
  resolver : Address.Resolver

/-- The address of key exchanges on the server that settings name. -/
def keyExchangeAddress (settings : Settings) (resolver : Address.Resolver := .plain) :
    Except Fault Address :=
  match Address.endpoint settings.serverUrl settings.keyExchangePath resolver with
  | .ok address => .ok address
  | .error unusable => .error (.address unusable)

/-- The group that settings name. -/
def groupOf (settings : Settings) : Except SealedCredentials.Fault Agreement.Group :=
  Agreement.Group.ofName settings.group

/-- A client over a group, with limits for a handshake and for a request.  The address of key
exchanges is looked at first, then an exponent is drawn. -/
def Config.make (settings : Settings) (group : Agreement.Group)
    (handshakeLimit requestLimit random : Nat) (resolver : Address.Resolver := .plain) :
    Except Fault Config :=
  match keyExchangeAddress settings resolver with
  | .error fault => .error fault
  | .ok address =>
    match Agreement.KeyPair.generate group.parameters random with
    | .error fault => .error (.channel fault)
    | .ok pair =>
      .ok ⟨⟨pair, handshakeLimit⟩, address, settings.serverUrl, settings.loginPath,
        settings.registerPath, requestLimit, resolver⟩

/-- A client as settings describe it. -/
def Config.ofSettings (settings : Settings) (group : Agreement.Group) (random : Nat)
    (resolver : Address.Resolver) : Except Fault Config :=
  Config.make settings group (Span.ofSeconds settings.handshakeSeconds.toNat)
    (Span.ofSeconds settings.requestSeconds.toNat) random resolver

/-- The network as the channel sees it. -/
def Config.transport (config : Config) (wire : Http.Wire) : Channel.Transport :=
  fun number request =>
    let post : Http.Request := ⟨config.keyExchange, request.write⟩
    if post.isSendable then
      let (delay, delivery) := (wire.exchange number post).within config.requestLimit
      ⟨some delay, delivery.reply post⟩
    else ⟨some 0, .error (.transport (Http.Fault.unsendable post.shown).message)⟩

/-! ## Submissions -/

/-- What is submitted besides a user name and a password. -/
inductive Form where
  | login
  | registration (role : String)
  deriving DecidableEq, Repr

/-- Credentials to submit, and the salts of their envelopes. -/
structure Submission where
  form : Form
  username : String
  password : String
  usernameSalt : Salt
  passwordSalt : Salt
  deriving DecidableEq, Repr

/-- The path that a form is for. -/
def Config.path (config : Config) : Form → String
  | .login => config.loginPath
  | .registration _ => config.registerPath

/-- The address that a form goes to. -/
def Config.endpoint (config : Config) (form : Form) : Except Address.Unusable Address :=
  Address.endpoint config.server (config.path form) config.resolver

/-- A form with two envelopes, as it is sent. -/
def Form.body (form : Form) (username password : String) : String :=
  match form with
  | .login => (Message.Login.mk username password).write
  | .registration role => (Message.Registration.mk username password role).write

/-- How far a submission has come. -/
inductive Stage where
  /-- The user name is to be sealed. -/
  | username
  /-- The user name is sealed, the password is to be. -/
  | password (username : String)
  /-- The request is sent, and this is what will come back at an instant. -/
  | sent (dueAt : Nat) (request : Http.Request) (delivery : Http.Delivery)
  deriving DecidableEq, Repr

/-- A submission under way: whose it is, since when, and how far it has come. -/
structure Task where
  caller : Nat
  submission : Submission
  begun : Nat
  stage : Stage
  deriving DecidableEq, Repr

/-- A request that carried credentials, and the submission that it was sent for. -/
structure Posting where
  caller : Nat
  submission : Submission
  request : Http.Request
  deriving DecidableEq, Repr

/-- What a caller may ask for: what the channel does, or a submission. -/
inductive Call where
  | channel (call : Channel.Call)
  | submit (submission : Submission)
  deriving DecidableEq, Repr

/-- What a caller gets: the answer of the channel or the outcome of a submission. -/
inductive Product where
  | channel (product : Channel.Product)
  | outcome (outcome : Http.Outcome)
  deriving DecidableEq, Repr

/-- What a call comes to. -/
abbrev Result := Except Fault Product

/-! ## States -/

/-- A client at an instant: its channel, the submissions under way, and all requests that
carried credentials, in the order in which they were sent. -/
structure State where
  channel : Channel.State
  tasks : List Task
  sent : List Posting

/-- What a call came to, when it began and when it ended. -/
structure Answer where
  caller : Nat
  call : Call
  begun : Nat
  ended : Nat
  result : Result

namespace State

/-- A client that nobody has used. -/
def fresh (now : Nat) : State := ⟨.fresh now, [], []⟩

/-- The submission of a caller. -/
def task? (state : State) (caller : Nat) : Option Task :=
  state.tasks.find? fun task => task.caller == caller

/-- The state without the submission of a caller. -/
def dismiss (state : State) (caller : Nat) : State :=
  { state with tasks := state.tasks.filter fun task => task.caller != caller }

/-- The state in which the submission of a caller has come to a stage. -/
def keep (state : State) (task : Task) : State :=
  let others := state.dismiss task.caller
  { others with tasks := others.tasks ++ [task] }

/-- The result that a delivery is for a submission. -/
def conclude (request : Http.Request) (delivery : Http.Delivery) : Result :=
  match delivery.response request with
  | .ok response => .ok (.outcome response.outcome)
  | .error fault => .error (.http fault)

/-- Both envelopes are there, and the request is sent. -/
def send (state : State) (config : Config) (wire : Http.Wire) (task : Task)
    (username password : String) : State × Option Result :=
  let submission := task.submission
  match config.endpoint submission.form with
  | .error unusable => (state.dismiss task.caller, some (.error (.address unusable)))
  | .ok address =>
    let request : Http.Request := ⟨address, submission.form.body username password⟩
    if request.isSendable then
      let (delay, delivery) :=
        (wire.submit state.sent.length request).within config.requestLimit
      let posting : Posting := ⟨task.caller, submission, request⟩
      let posted : State := { state with sent := state.sent ++ [posting] }
      if delay = 0 then (posted.dismiss task.caller, some (conclude request delivery))
      else
        let dueAt := state.channel.now + delay
        (posted.keep { task with stage := .sent dueAt request delivery }, none)
    else (state.dismiss task.caller, some (.error (.http (.unsendable request.shown))))

/-- The submission goes on with what the channel says about the password. -/
def withPassword (state : State) (config : Config) (wire : Http.Wire) (task : Task)
    (username : String) (result : Option Channel.Result) : State × Option Result :=
  match result with
  | some (.ok (.envelope password)) => state.send config wire task username password
  | some (.error fault) => (state.dismiss task.caller, some (.error (.channel fault)))
  | _ => (state.keep { task with stage := .password username }, none)

/-- The submission goes on with what the channel says about the user name. -/
def withUsername (state : State) (config : Config) (wire : Http.Wire) (task : Task)
    (result : Option Channel.Result) : State × Option Result :=
  match result with
  | some (.ok (.envelope username)) =>
    let sealing := .sealText task.submission.password task.submission.passwordSalt
    let (channel, result) :=
      state.channel.call config.channel (config.transport wire) task.caller sealing
    let next : State := { state with channel := channel }
    next.withPassword config wire task username result
  | some (.error fault) => (state.dismiss task.caller, some (.error (.channel fault)))
  | _ => (state.keep { task with stage := .username }, none)

/-- What an answer of the channel is to a caller that asked the channel itself. -/
def relay : Channel.Result → Result
  | .ok product => .ok (.channel product)
  | .error fault => .error (.channel fault)

/-- A caller makes a call. -/
def call (state : State) (config : Config) (wire : Http.Wire) (caller : Nat) (call : Call) :
    State × Option Result :=
  match call with
  | .channel call =>
    let (channel, result) :=
      state.channel.call config.channel (config.transport wire) caller call
    ({ state with channel := channel }, result.map relay)
  | .submit submission =>
    let sealing := .sealText submission.username submission.usernameSalt
    let (channel, result) :=
      state.channel.call config.channel (config.transport wire) caller sealing
    let next : State := { state with channel := channel }
    next.withUsername config wire ⟨caller, submission, state.channel.now, .username⟩ result

/-- A caller that waits with a submission looks again. -/
def resumeTask (state : State) (config : Config) (wire : Http.Wire) (task : Task) :
    State × Option Result :=
  let lookAgain : State × Option Channel.Result :=
    match state.channel.waiter? task.caller with
    | none => (state, none)
    | some waiter =>
      let (channel, result) := state.channel.resume config.channel waiter
      ({ state with channel := channel }, result)
  match task.stage with
  | .username => lookAgain.1.withUsername config wire task lookAgain.2
  | .password username => lookAgain.1.withPassword config wire task username lookAgain.2
  | .sent dueAt request delivery =>
    if dueAt ≤ state.channel.now then
      (state.dismiss task.caller, some (conclude request delivery))
    else (state, none)

end State

/-! ## Runs -/

/-- What can happen to a client. -/
inductive Event where
  | call (caller : Nat) (call : Call)
  /-- A caller that waits looks again. -/
  | resume (caller : Nat)
  /-- A caller that waits loses interest. -/
  | abandon (caller : Nat)
  | elapse (span : Nat)

namespace State

/-- Whether a caller waits for the end of an earlier call. -/
def isBusy (state : State) (caller : Nat) : Bool :=
  (state.task? caller).isSome || (state.channel.waiter? caller).isSome

/-- One event: the state after it, and the answer that it brings if any.  A caller that waits
makes no call. -/
def step (config : Config) (wire : Http.Wire) (state : State) :
    Event → State × Option Answer
  | .call caller call =>
    if state.isBusy caller then (state, none)
    else
      let (next, result) := state.call config wire caller call
      let now := state.channel.now
      (next, result.map fun result => ⟨caller, call, now, now, result⟩)
  | .resume caller =>
    let now := state.channel.now
    match state.task? caller, state.channel.waiter? caller with
    | some task, _ =>
      let (next, result) := state.resumeTask config wire task
      (next, result.map fun result =>
        ⟨caller, .submit task.submission, task.begun, now, result⟩)
    | none, some waiter =>
      let (channel, result) := state.channel.resume config.channel waiter
      ({ state with channel := channel }, result.map fun result =>
        ⟨caller, .channel waiter.call, waiter.begun, now, relay result⟩)
    | none, none => (state, none)
  | .abandon caller =>
    ({ state.dismiss caller with channel := state.channel.dismiss caller }, none)
  | .elapse span =>
    ({ state with channel := { state.channel with now := state.channel.now + span } }, none)

/-- A sequence of events: the state after it, and all answers in order. -/
def run (config : Config) (wire : Http.Wire) : State → List Event → State × List Answer
  | state, [] => (state, [])
  | state, event :: later =>
    let (next, answer) := state.step config wire event
    let (final, answers) := run config wire next later
    (final, answer.toList ++ answers)

end State

end SealedCredentials.Client
