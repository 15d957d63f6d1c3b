import SealedCredentials.Client.Basic
import SealedCredentials.Proofs.Channel.Departure

/-!
# What a submission sends

A call that seals a text depends on one key exchange: the one that led to the key, or the one that
the call begins or joins (`Channel.State.Concludes`).  The end of the key exchange for the user name
decides what a submission sends (`Submission.request`): with a key one request, whose envelopes are
sealed with it, and without a key none.  The key stays in place between the two envelopes, so what
the channel says about the user name settles the password too (`State.withUsername_eq`).
-/

set_option autoImplicit false

namespace SealedCredentials

open Envelope

/-! ## The channel, seen by one caller -/

namespace Channel

variable {config : Config} {transport : Transport} {state : State}

/-- After an attempt that led to a key, the key is there. -/
theorem Invariant.slot_of_ended {number : Nat} {material : Material}
    (invariant : Invariant config transport state)
    (ended : state.ended? number = some (.ok material)) : state.slot = .established material := by
  obtain ⟨faults, ledger⟩ := invariant.ledger
  obtain ⟨attempt, found, known⟩ := Option.bind_eq_some_iff.mp ended
  exact ledger.established_of_ok found known

namespace State

/-- How the key exchange has ended by a later state that a call depends on: the key was there
already, or the attempt that the call begins or joins has ended. -/
def Concludes (before after : State) (outcome : Outcome) : Prop :=
  (∃ material, before.slot = .established material ∧ outcome = .ok material) ∨
    ∃ number, before.joined? = some number ∧ after.ended? number = some outcome

/-- A key exchange ends in one way only. -/
theorem Concludes.unique {before after : State} {outcome other : Outcome}
    (concludes : before.Concludes after outcome) (again : before.Concludes after other) :
    outcome = other := by
  rcases concludes with ⟨material, held, rfl⟩ | ⟨number, joined, ended⟩
  · rcases again with ⟨material', held', rfl⟩ | ⟨number, joined, -⟩
    · cases held.symm.trans held'
      rfl
    · rw [joined?, held] at joined
      cases joined
  · rcases again with ⟨material, held, -⟩ | ⟨number', joined', ended'⟩
    · rw [joined?, held] at joined
      cases joined
    · cases joined.symm.trans joined'
      exact Option.some.inj (ended.symm.trans ended')

/-- The end of a key exchange is not forgotten. -/
theorem Concludes.extend {before after later : State} {outcome : Outcome}
    (concludes : before.Concludes after outcome) (longer : after.Extends later) :
    before.Concludes later outcome := by
  refine concludes.imp_right ?_
  rintro ⟨number, joined, ended⟩
  obtain ⟨attempt, found, known⟩ := Option.bind_eq_some_iff.mp ended
  obtain ⟨still, foundLater, kept⟩ := longer.kept number attempt found
  exact ⟨number, joined, (ended?_of_found foundLater).trans (kept outcome known)⟩

/-- After a key exchange that led to a key, the key is there. -/
theorem Concludes.slot {before after : State} {material : Material}
    (concludes : before.Concludes after (.ok material))
    (invariant : Invariant config transport before)
    (reached : Moves config transport before after) :
    after.slot = .established material := by
  rcases concludes with ⟨held, there, same⟩ | ⟨number, -, ended⟩
  · cases same
    exact (invariant.established_moves there reached).1
  · exact (invariant.moves reached).slot_of_ended ended

/-- A call that seals a text waits for an attempt or gets the end of its key exchange. -/
theorem call_sealText (config : Config) (transport : Transport) {caller : Nat}
    (free : state.waiter? caller = none) (text : String) (salt : Salt) :
    let called := state.call config transport caller (.sealText text salt)
    (∃ number, state.joined? = some number ∧ called.2 = none ∧ called.1.waiter? caller =
        some ⟨caller, .sealText text salt, .sealing text salt, state.now, number⟩) ∨
      ∃ outcome, state.Concludes called.1 outcome ∧ called.1.waiter? caller = none ∧
        called.2 = some ((Purpose.sealing text salt).conclude outcome) := by
  intro called
  have needed : (Call.sealText text salt).purpose = .ok (.sealing text salt) := rfl
  rcases place : state.joined? with _ | number
  · right
    cases held : state.slot with
    | idle =>
      rw [joined?, held] at place
      cases place
    | pending number =>
      rw [joined?, held] at place
      cases place
    | established material =>
      have served : called = _ := call_of_established config transport free needed held
      rw [served]
      exact ⟨.ok material, .inl ⟨material, held, rfl⟩, free, rfl⟩
  · obtain ⟨seated, origin, held, joins⟩ := call_of_joined config transport free needed place
    have joins : called = _ := joins
    have unseated : seated.waiter? caller = none := by
      rw [waiter?, (seated_kept origin).2]
      exact free
    rcases seated.join_cases config
        ⟨caller, .sealText text salt, .sealing text salt, state.now, number⟩ with
      joined | ⟨attempt, outcome, found, -, joined⟩
    · left
      rw [joins, joined]
      exact ⟨number, rfl, rfl, waiter?_append_self unseated⟩
    · right
      rw [joins, joined]
      refine ⟨outcome, .inr ⟨number, place, ended?_of_found (getElem?_settle found outcome)⟩,
        ?_, rfl⟩
      rw [waiter?, settle_waiting]
      exact unseated

/-- A caller that looks again sees nothing, as nobody before it, or gets the end of its attempt. -/
theorem resume_waiter (config : Config) {caller : Nat} {waiter : Waiter}
    (waits : state.waiter? caller = some waiter) :
    let resumed := state.resume config waiter
    (resumed = (state, none) ∧ state.ended? waiter.attempt = none) ∨
      ∃ outcome, resumed.1.ended? waiter.attempt = some outcome ∧
        resumed.1.waiter? caller = none ∧ resumed.2 = some (waiter.purpose.conclude outcome) := by
  intro resumed
  rcases state.look_cases config waiter.attempt with blind | ⟨attempt, outcome, found, seen, same⟩
  · left
    refine ⟨by simp only [resumed, resume, blind], ?_⟩
    -- an end that somebody has seen before shows at every look
    refine Option.eq_none_iff_forall_ne_some.mpr fun outcome ended => ?_
    obtain ⟨attempt, found, known⟩ := Option.bind_eq_some_iff.mp ended
    have seen : attempt.look config state.now = some outcome := by
      rw [Attempt.look, known]
    have shown := congrArg Prod.snd ((look_of_seen found seen).symm.trans blind)
    cases shown
  · right
    have looked : resumed =
        ((state.settle waiter.attempt outcome).dismiss caller,
          some (waiter.purpose.conclude outcome)) := by
      simp only [resumed, resume, same, caller_of_waiter? waits]
    rw [looked]
    exact ⟨outcome, ended?_of_found (getElem?_settle found outcome), waiter?_dismiss_self _ caller,
      rfl⟩

end State

end Channel

namespace Client

/-! ## What a submission sends -/

/-- The request for a form with two envelopes, or why it cannot be made. -/
def Config.submit (config : Config) (form : Form) (username password : String) :
    Except Fault Http.Request :=
  match config.endpoint form with
  | .error unusable => .error (.address unusable)
  | .ok address =>
    let request : Http.Request := ⟨address, form.body username password⟩
    if request.isSendable then .ok request else .error (.http (.unsendable request.shown))

namespace Submission

/-- The call for the envelope of the user name. -/
def sealing (submission : Submission) : Channel.Call :=
  .sealText submission.username submission.usernameSalt

/-- A caller that waits for the envelope of the user name. -/
def waiter (submission : Submission) (caller begun attempt : Nat) : Channel.Waiter :=
  ⟨caller, submission.sealing, .sealing submission.username submission.usernameSalt, begun, attempt⟩

/-- What a submission sends once its key exchange has ended, or why it sends nothing. -/
def request (config : Config) (submission : Submission) :
    Channel.Outcome → Except Fault Http.Request
  | .error fault => .error (.channel (.handshake fault))
  | .ok material =>
    config.submit submission.form
      (sealText material submission.username submission.usernameSalt)
      (sealText material submission.password submission.passwordSalt)

end Submission

namespace State

variable {config : Config} {wire : Http.Wire} {state : State}

/-- The state over another channel. -/
def onto (state : State) (channel : Channel.State) : State := { state with channel := channel }

/-- The state in which a request was sent for a task. -/
def posted (state : State) (task : Task) (request : Http.Request) : State :=
  { state with sent := state.sent ++ [⟨task.caller, task.submission, request⟩] }

/-- The request of a submission is sent, and the response may be there at once. -/
def post (state : State) (config : Config) (wire : Http.Wire) (task : Task)
    (request : Http.Request) : State × Option Result :=
  let (delay, delivery) := (wire.submit state.sent.length request).within config.requestLimit
  if delay = 0 then
    ((state.posted task request).dismiss task.caller, some (conclude request delivery))
  else
    let dueAt := state.channel.now + delay
    ((state.posted task request).keep { task with stage := .sent dueAt request delivery }, none)

/-- A submission sends its request, or ends without one. -/
def finish (state : State) (config : Config) (wire : Http.Wire) (task : Task) :
    Except Fault Http.Request → State × Option Result
  | .error fault => (state.dismiss task.caller, some (.error fault))
  | .ok request => state.post config wire task request

theorem send_eq (state : State) (config : Config) (wire : Http.Wire) (task : Task)
    (username password : String) :
    state.send config wire task username password =
      state.finish config wire task (config.submit task.submission.form username password) := by
  simp only [send, Config.submit]
  cases config.endpoint task.submission.form with
  | error unusable => rfl
  | ok address =>
    by_cases sendable :
        (Http.Request.mk address (task.submission.form.body username password)).isSendable = true
    · simp only [sendable, if_true]
      rfl
    · simp only [sendable, Bool.false_eq_true, if_false]
      rfl

/-- **The end of the key exchange decides what a submission sends.**  If there is a key, it is there
for the password too. -/
theorem withUsername_eq (config : Config) (wire : Http.Wire) (task : Task)
    {outcome : Channel.Outcome} (free : state.channel.waiter? task.caller = none)
    (held : ∀ material, outcome = .ok material → state.channel.slot = .established material) :
    state.withUsername config wire task (some
        ((Channel.Purpose.sealing task.submission.username task.submission.usernameSalt).conclude
          outcome)) =
      state.finish config wire task (task.submission.request config outcome) := by
  cases outcome with
  | error fault => rfl
  | ok material =>
    have needed : (Channel.Call.sealText task.submission.password
        task.submission.passwordSalt).purpose =
          .ok (.sealing task.submission.password task.submission.passwordSalt) := rfl
    -- the second call finds the key in the slot, so it neither waits nor gets another one
    have sealed := Channel.State.call_of_established config.channel (config.transport wire) free
      needed (held material rfl)
    simp only [Channel.Purpose.conclude, Channel.Purpose.serve, withUsername, sealed, withPassword,
      send_eq]
    rfl

/-- Whoever has sent its request has the response at once or waits for it. -/
theorem post_cases (state : State) (config : Config) (wire : Http.Wire) (task : Task)
    (request : Http.Request) :
    ∃ delivery, state.post config wire task request =
        ((state.posted task request).dismiss task.caller, some (conclude request delivery)) ∨
      ∃ dueAt, state.post config wire task request =
        ((state.posted task request).keep { task with stage := .sent dueAt request delivery },
          none) := by
  rcases brought : (wire.submit state.sent.length request).within config.requestLimit with
    ⟨delay, delivery⟩
  refine ⟨delivery, ?_⟩
  by_cases prompt : delay = 0
  · left
    simp only [post, brought, prompt, if_true]
  · right
    refine ⟨state.channel.now + delay, ?_⟩
    simp only [post, brought, prompt, if_false]

/-! ## Tasks -/

theorem mem_of_task? {caller : Nat} {task : Task} (found : state.task? caller = some task) :
    task ∈ state.tasks := List.mem_of_find?_eq_some found

theorem caller_of_task? {caller : Nat} {task : Task} (found : state.task? caller = some task) :
    task.caller = caller := by
  unfold task? at found
  have mine := List.find?_some found
  exact beq_iff_eq.mp mine

theorem task?_eq_none_iff {caller : Nat} :
    state.task? caller = none ↔ ∀ task ∈ state.tasks, task.caller ≠ caller := by
  unfold task?
  rw [List.find?_eq_none]
  simp only [beq_iff_eq, ne_eq]

theorem mem_dismiss {caller : Nat} {task : Task} :
    task ∈ (state.dismiss caller).tasks ↔ task ∈ state.tasks ∧ task.caller ≠ caller := by
  rw [dismiss, List.mem_filter, bne_iff_ne]

theorem mem_keep {kept task : Task} :
    task ∈ (state.keep kept).tasks ↔
      task ∈ state.tasks ∧ task.caller ≠ kept.caller ∨ task = kept := by
  rw [keep, List.mem_append, mem_dismiss, List.mem_singleton]

theorem task?_dismiss_self (state : State) (caller : Nat) :
    (state.dismiss caller).task? caller = none :=
  task?_eq_none_iff.mpr fun _ member => (mem_dismiss.mp member).2

theorem task?_dismiss_of_ne {caller other : Nat} (different : other ≠ caller) :
    (state.dismiss other).task? caller = state.task? caller := by
  unfold dismiss task?
  rw [List.find?_filter]
  refine congrArg (List.find? · state.tasks) (funext fun task => ?_)
  by_cases mine : task.caller = caller
  · simp [mine, Ne.symm different]
  · simp [mine]

theorem task?_keep_self (state : State) (task : Task) :
    (state.keep task).task? task.caller = some task := by
  have absent := state.task?_dismiss_self task.caller
  unfold task? at absent ⊢
  rw [keep, List.find?_append, absent, Option.none_or]
  simp

theorem task?_keep_of_ne {caller : Nat} {task : Task} (different : task.caller ≠ caller) :
    (state.keep task).task? caller = state.task? caller := by
  have others : (state.dismiss task.caller).task? caller = state.task? caller :=
    task?_dismiss_of_ne different
  unfold task? at others ⊢
  rw [keep, List.find?_append, others]
  simp [different]

end State

end Client

end SealedCredentials
