import SealedCredentials.Proofs.Client.Credentials

/-!
# What a client sends

Everything that a client sends is written down in the order in which it is sent (`State.log`): the
requests of its key exchanges, and those for submissions.  The latter are the requests that the
client itself keeps (`State.filterMap_log`).
-/

set_option autoImplicit false

namespace SealedCredentials.Client

variable {config : Config} {wire : Http.Wire}

/-- A request that a client sends: for a key exchange, or for a submission. -/
inductive Dispatch where
  | exchange (request : Http.Request)
  | submission (posting : Posting)

/-- The request for a submission that was sent, if it is one. -/
def Dispatch.posting? : Dispatch → Option Posting
  | .exchange _ => none
  | .submission posting => some posting

namespace State

variable {state : State}

/-- What a client sends on its way to a later state: the requests of the key exchanges that it
begins there, as far as they can be sent, and then the requests for submissions. -/
def dispatched (config : Config) (before after : State) : List Dispatch :=
  -- an event that does both begins a key exchange first, since it seals with the key that it brings
  let begun := after.channel.attempts.drop before.channel.attempts.length
  let requests := begun.map fun attempt =>
    Http.Request.mk config.keyExchange attempt.request.write
  (requests.filter Http.Request.isSendable).map .exchange ++
    (after.sent.drop before.sent.length).map .submission

/-- What a client sends in the course of events, in order. -/
def log (config : Config) (wire : Http.Wire) : State → List Event → List Dispatch
  | _, [] => []
  | state, event :: later =>
    let next := (state.step config wire event).1
    dispatched config state next ++ log config wire next later

/-- Requests that were sent stay written down. -/
theorem sent_prefix_step (invariant : Invariant config wire state) (event : Event) :
    state.sent <+: (state.step config wire event).1.sent := by
  cases state.step_change wire invariant.channel invariant.seated event with
  | aside _ sent => exact ⟨[], by rw [sent, List.append_nil]⟩
  | drops _ _ sent => exact ⟨[], by rw [sent, List.append_nil]⟩
  | waits _ _ _ sent => exact ⟨[], by rw [sent, List.append_nil]⟩
  | posts _ _ _ sent => exact ⟨_, sent.symm⟩

/-- **The submissions in the log are the requests that the client has written down.** -/
theorem filterMap_log (invariant : Invariant config wire state) (events : List Event) :
    state.sent ++ (log config wire state events).filterMap Dispatch.posting? =
      (state.run config wire events).1.sent := by
  induction events generalizing state with
  | nil => exact List.append_nil _
  | cons event later ih =>
    have grown := List.prefix_iff_eq_append.mp (sent_prefix_step invariant event)
    have ends := ih (invariant.step event)
    have exchanges (requests : List Http.Request) :
        (requests.map Dispatch.exchange).filterMap Dispatch.posting? = [] := by
      rw [List.filterMap_map]
      exact List.filterMap_eq_nil_iff.mpr fun _ _ => rfl
    have submissions (postings : List Posting) :
        (postings.map Dispatch.submission).filterMap Dispatch.posting? = postings := by
      rw [List.filterMap_map]
      exact List.filterMap_some
    rw [run_cons, ← ends, log, dispatched, List.filterMap_append, List.filterMap_append, exchanges,
      submissions, List.nil_append, ← List.append_assoc, grown]

end State

end SealedCredentials.Client
