import SealedCredentials.Client.Basic

/-!
# A caller alone

A caller that nobody shares the client with: whatever it asks for, time passes until it is
answered.  Both the channel and a request end within their limits, so two looks are enough.
-/

set_option autoImplicit false

namespace SealedCredentials.Client.State

/-- The instant from which a look by a caller that waits brings something new. -/
def dueAt? (state : State) (config : Config) (caller : Nat) : Option Nat :=
  match state.task? caller with
  | some ⟨_, _, _, .sent dueAt _ _⟩ => some dueAt
  | _ => state.channel.dueAt? config.channel caller

/-- Looks of a caller, each as soon as it brings something new, until it is answered. -/
def await (config : Config) (wire : Http.Wire) (caller : Nat) :
    Nat → State × Option Answer → State × Option Answer
  | _, (state, some answer) => (state, some answer)
  | 0, (state, none) => (state, none)
  | looks + 1, (state, none) =>
    match state.dueAt? config caller with
    | none => (state, none)
    | some dueAt =>
      let (later, _) := state.step config wire (.elapse (dueAt - state.channel.now))
      await config wire caller looks (later.step config wire (.resume caller))

/-- A call and, if it is not answered at once, the time until it is: at most the channel and
one request have to be waited for. -/
def perform (state : State) (config : Config) (wire : Http.Wire) (call : Call) :
    State × Option Result :=
  let (state, answer) := await config wire 0 2 (state.step config wire (.call 0 call))
  (state, answer.map Answer.result)

end SealedCredentials.Client.State
