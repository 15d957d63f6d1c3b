import SealedCredentials.Envelope.Sealing
import SealedCredentials.Message.Handshake

/-!
# The channel

A channel runs one key exchange, when a key is first needed, and keeps the key.  Callers that
come while an exchange is under way wait for the same attempt.  A failed attempt clears the
slot, and the next call starts over.

The channel is a transition system over events: a call, a look by a caller that waits, the
end of a caller's interest, and the passing of time.  An attempt has no life of its own.  It
makes progress when a caller looks at it, be it the one that started it or one that joined;
meanwhile only its clock runs.
-/

set_option autoImplicit false

namespace SealedCredentials.Channel

open SealedCredentials.Agreement SealedCredentials.Envelope

/-! ## Exchanges and attempts -/

/-- What becomes of a request: the answer, and the span after which it is there.  Without a
span it never comes. -/
structure Exchange where
  delay : Option Nat
  answer : Except HandshakeFault Message.Reply

/-- The other end, as the exchanges that it makes of successive requests. -/
abbrev Transport := Nat → Message.Request → Exchange

/-- What a channel is opened with: a key pair, and the longest span that an exchange may
take, in nanoseconds. -/
structure Config where
  pair : KeyPair
  limit : Nat

/-- The request of a channel, the same in every attempt. -/
def Config.request (config : Config) : Message.Request := ⟨config.pair.publicText⟩

/-- How an attempt ends. -/
abbrev Outcome := Except HandshakeFault Material

/-- The key material that an answer leads to. -/
def Config.conclude (config : Config) : Except HandshakeFault Message.Reply → Outcome
  | .error fault => .error fault
  | .ok (.rejected reason) => .error (.rejected reason)
  | .ok (.accepted serverPublic) =>
    match config.pair.shareText serverPublic with
    | .ok secret => .ok (.ofSecret secret)
    | .error .peerValue => .error .peerValue
    | .error fault => .error (.malformed fault.message)

/-- One exchange that was begun: when, with which request, what comes of it, and how it ended
if it has. -/
structure Attempt where
  request : Message.Request
  startedAt : Nat
  exchange : Exchange
  outcome : Option Outcome

namespace Attempt

/-- Whether the answer is there. -/
def answered (attempt : Attempt) (now : Nat) : Bool :=
  match attempt.exchange.delay with
  | some delay => attempt.startedAt + delay ≤ now
  | none => false

/-- The instant from which a look ends the attempt: the answer is there, or the limit has
passed. -/
def dueAt (attempt : Attempt) (limit : Nat) : Nat :=
  match attempt.exchange.delay with
  | some delay => attempt.startedAt + min delay limit
  | none => attempt.startedAt + limit

/-- What a look shows.  An answer that is there counts, even if the limit has passed too. -/
def look (attempt : Attempt) (config : Config) (now : Nat) : Option Outcome :=
  match attempt.outcome with
  | some outcome => some outcome
  | none =>
    if attempt.answered now then some (config.conclude attempt.exchange.answer)
    else if attempt.startedAt + config.limit ≤ now then some (.error (.timedOut config.limit))
    else none

end Attempt

/-! ## Calls -/

/-- What a caller may ask for. -/
inductive Call where
  /-- That there is a key. -/
  | ensure
  | sealText (text : String) (salt : Salt)
  /-- As `sealText`, for bytes that must spell a text. -/
  | sealBytes (bytes : List UInt8) (salt : Salt)
  deriving DecidableEq, Repr

/-- What a caller wants the key material for. -/
inductive Purpose where
  | presence
  | sealing (text : String) (salt : Salt)
  deriving DecidableEq, Repr

/-- The purpose of a call.  Bytes that spell no text are refused before anything else. -/
def Call.purpose : Call → Except Text.Utf8.Fault Purpose
  | .ensure => .ok .presence
  | .sealText text salt => .ok (.sealing text salt)
  | .sealBytes bytes salt =>
    match Text.Utf8.toString? bytes with
    | .ok text => .ok (.sealing text salt)
    | .error fault => .error fault

/-- What a caller gets. -/
inductive Product where
  | ready
  | envelope (wire : String)
  deriving DecidableEq, Repr

/-- What a call comes to. -/
abbrev Result := Except Fault Product

namespace Purpose

/-- What the key material serves for. -/
def serve (purpose : Purpose) (material : Material) : Product :=
  match purpose with
  | .presence => .ready
  | .sealing text salt => .envelope (sealText material text salt)

/-- What the end of an attempt means to a caller. -/
def conclude (purpose : Purpose) : Outcome → Result
  | .ok material => .ok (purpose.serve material)
  | .error fault => .error (.handshake fault)

end Purpose

/-! ## States -/

/-- What the channel holds. -/
inductive Slot where
  | idle
  /-- The attempt of this number is under way, as far as anybody has looked. -/
  | pending (attempt : Nat)
  | established (material : Material)
  deriving DecidableEq, Repr

/-- A caller that waits for the end of an attempt: what it asked for and since when. -/
structure Waiter where
  caller : Nat
  call : Call
  purpose : Purpose
  begun : Nat
  attempt : Nat
  deriving DecidableEq, Repr

/-- A channel at an instant: the slot, all attempts so far in the order of their beginning,
and the callers that wait. -/
structure State where
  now : Nat
  slot : Slot
  attempts : List Attempt
  waiting : List Waiter

/-- What a call came to, when it began and when it ended. -/
structure Answer where
  caller : Nat
  call : Call
  begun : Nat
  ended : Nat
  result : Result

namespace State

/-- A channel that nobody has used. -/
def fresh (now : Nat) : State := ⟨now, .idle, [], []⟩

/-- Whether there is a key. -/
def isEstablished (state : State) : Bool :=
  match state.slot with
  | .established _ => true
  | _ => false

/-- The state as it is reported: an attempt under way does not show. -/
def phase (state : State) : String :=
  if state.isEstablished then "Established" else "Uninitialized"

/-- The name of what the slot holds. -/
def slotName (state : State) : String :=
  match state.slot with
  | .idle => "Uninitialized"
  | .pending _ => "Pending"
  | .established _ => "Established"

/-- What may be shown of a channel: its identifier and the name of what its slot holds. -/
def summary (state : State) (identifier : String) : String :=
  "ChannelSession \x7b id: SessionId(" ++ identifier ++ "), state: \"" ++ state.slotName ++
    "\", .. \x7d"

/-- The waiter of a caller. -/
def waiter? (state : State) (caller : Nat) : Option Waiter :=
  state.waiting.find? fun waiter => waiter.caller == caller

/-- The instant from which a look by a caller that waits ends its attempt. -/
def dueAt? (state : State) (config : Config) (caller : Nat) : Option Nat := do
  let waiter ← state.waiter? caller
  let attempt ← state.attempts[waiter.attempt]?
  return attempt.dueAt config.limit

/-- The state without a caller among those that wait. -/
def dismiss (state : State) (caller : Nat) : State :=
  { state with waiting := state.waiting.filter fun waiter => waiter.caller != caller }

/-- The end of an attempt becomes known.  Only the attempt that the slot holds changes the
slot: success fills it, failure clears it. -/
def settle (state : State) (number : Nat) (outcome : Outcome) : State :=
  let attempts := state.attempts.modify number fun attempt =>
    { attempt with outcome := some outcome }
  if state.slot = .pending number then
    match outcome with
    | .ok material => { state with attempts := attempts, slot := .established material }
    | .error _ => { state with attempts := attempts, slot := .idle }
  else { state with attempts := attempts }

/-- A look at an attempt: the state after it, and the end of the attempt if it has come. -/
def look (state : State) (config : Config) (number : Nat) : State × Option Outcome :=
  match state.attempts[number]? with
  | none => (state, none)
  | some attempt =>
    match attempt.look config state.now with
    | some outcome => (state.settle number outcome, some outcome)
    | none => (state, none)

/-- A caller begins to wait for an attempt, unless a first look ends it. -/
def join (state : State) (config : Config) (waiter : Waiter) : State × Option Result :=
  match state.look config waiter.attempt with
  | (seen, some outcome) => (seen, some (waiter.purpose.conclude outcome))
  | (seen, none) => ({ seen with waiting := seen.waiting ++ [waiter] }, none)

/-- A new attempt takes the slot. -/
def start (state : State) (config : Config) (transport : Transport) : State :=
  let number := state.attempts.length
  let exchange := transport number config.request
  { state with
    slot := .pending number
    attempts := state.attempts ++ [⟨config.request, state.now, exchange, none⟩] }

/-- A caller needs the key material. -/
def demand (state : State) (config : Config) (transport : Transport) (caller : Nat)
    (call : Call) (purpose : Purpose) : State × Option Result :=
  let waitFor (attempt : Nat) : Waiter := ⟨caller, call, purpose, state.now, attempt⟩
  match state.slot with
  | .established material => (state, some (.ok (purpose.serve material)))
  | .pending number => state.join config (waitFor number)
  | .idle => (state.start config transport).join config (waitFor state.attempts.length)

/-- A caller makes a call.  One that waits for an earlier call makes none. -/
def call (state : State) (config : Config) (transport : Transport) (caller : Nat)
    (call : Call) : State × Option Result :=
  if (state.waiter? caller).isSome then (state, none)
  else
    match call.purpose with
    | .error fault => (state, some (.error (.encoding fault)))
    | .ok purpose => state.demand config transport caller call purpose

/-- A caller that waits looks at its attempt again. -/
def resume (state : State) (config : Config) (waiter : Waiter) : State × Option Result :=
  match state.look config waiter.attempt with
  | (seen, some outcome) =>
    (seen.dismiss waiter.caller, some (waiter.purpose.conclude outcome))
  | (seen, none) => (seen, none)

end State

/-! ## Runs -/

/-- What can happen to a channel. -/
inductive Event where
  | call (caller : Nat) (call : Call)
  /-- A caller that waits looks again. -/
  | resume (caller : Nat)
  /-- A caller that waits loses interest. -/
  | abandon (caller : Nat)
  | elapse (span : Nat)

namespace State

/-- One event: the state after it, and the answer that it brings if any. -/
def step (config : Config) (transport : Transport) (state : State) :
    Event → State × Option Answer
  | .call caller call =>
    let (next, result) := state.call config transport caller call
    (next, result.map fun result => ⟨caller, call, state.now, state.now, result⟩)
  | .resume caller =>
    match state.waiter? caller with
    | none => (state, none)
    | some waiter =>
      let (next, result) := state.resume config waiter
      (next, result.map fun result => ⟨caller, waiter.call, waiter.begun, state.now, result⟩)
  | .abandon caller => (state.dismiss caller, none)
  | .elapse span => ({ state with now := state.now + span }, none)

/-- A sequence of events: the state after it, and all answers in order. -/
def run (config : Config) (transport : Transport) : State → List Event → State × List Answer
  | state, [] => (state, [])
  | state, event :: later =>
    let (next, answer) := state.step config transport event
    let (final, answers) := run config transport next later
    (final, answer.toList ++ answers)

/-- The events of a run never let time pass over an attempt that a caller waits for and a look
would end. -/
def waits (state : State) (config : Config) (span : Nat) : Bool :=
  span == 0 || state.waiting.all fun waiter =>
    match state.attempts[waiter.attempt]? with
    | some attempt => attempt.outcome.isNone && state.now + span ≤ attempt.dueAt config.limit
    | none => true

/-- Whether every caller looks again no later than its attempt can end. -/
def timely (config : Config) (transport : Transport) : State → List Event → Bool
  | _, [] => true
  | state, event :: later =>
    (match event with
      | .elapse span => state.waits config span
      | _ => true) && timely config transport (state.step config transport event).1 later

end State

end SealedCredentials.Channel
