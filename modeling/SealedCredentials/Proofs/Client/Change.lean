import SealedCredentials.Proofs.Client.Submission

/-!
# What an event can do to a client

Whatever a caller does to the channel of a client is a turn of the same caller on the channel
(`State.step_turn`).  A submission that waits for its key exchange goes on waiting or finishes the
wait (`State.step_submit`, `State.step_resume_waiting`), and then it ends or sends its request.  So
submissions change in four ways only, and every event does one of them (`State.step_change`).
-/

set_option autoImplicit false

namespace SealedCredentials.Client

open Envelope

/-- Whose event it is, unless it is time that passes. -/
def Event.caller? : Event → Option Nat
  | .call caller _ => some caller
  | .resume caller => some caller
  | .abandon caller => some caller
  | .elapse _ => none

/-- A submission under way waits for the envelope of the user name or for its response; it never has
to wait for the envelope of the password. -/
inductive Task.Seated (channel : Channel.State) (task : Task) : Prop where
  | waiting (number : Nat) (stage : task.stage = .username)
      (waits : channel.waiter? task.caller =
        some (task.submission.waiter task.caller task.begun number))
  | sent (dueAt : Nat) (request : Http.Request) (delivery : Http.Delivery)
      (stage : task.stage = .sent dueAt request delivery)

namespace State

variable {config : Config} {wire : Http.Wire} {state : State}

/-! ## What an event does to the channel -/

theorem channel_post (state : State) (config : Config) (wire : Http.Wire) (task : Task)
    (request : Http.Request) : (state.post config wire task request).1.channel = state.channel := by
  obtain ⟨delivery, same | ⟨dueAt, same⟩⟩ := state.post_cases config wire task request
  · rw [same]
    rfl
  · rw [same]
    rfl

theorem channel_finish (state : State) (config : Config) (wire : Http.Wire) (task : Task)
    (sends : Except Fault Http.Request) :
    (state.finish config wire task sends).1.channel = state.channel := by
  cases sends with
  | error fault => rfl
  | ok request => exact state.channel_post config wire task request

theorem channel_withPassword (state : State) (config : Config) (wire : Http.Wire) (task : Task)
    (username : String) (result : Option Channel.Result) :
    (state.withPassword config wire task username result).1.channel = state.channel := by
  unfold withPassword
  split
  · rw [send_eq]
    exact state.channel_finish config wire task _
  · rfl
  · rfl

theorem turn_withUsername (state : State) (config : Config) (wire : Http.Wire) (task : Task)
    (result : Option Channel.Result) :
    Channel.Turn config.channel (config.transport wire) task.caller state.channel
      (state.withUsername config wire task result).1.channel := by
  unfold withUsername
  split
  -- with the first envelope there, the call for the second one is all that the channel sees
  · refine .single ⟨.call task.caller
      (.sealText task.submission.password task.submission.passwordSalt), rfl, ?_⟩
    rw [channel_withPassword]
    rfl
  · exact .refl
  · exact .refl

theorem turn_resume (config : Config) (wire : Http.Wire) {channel : Channel.State} {caller : Nat}
    {waiter : Channel.Waiter} (waits : channel.waiter? caller = some waiter) :
    Channel.Turn config.channel (config.transport wire) caller channel
      (channel.resume config.channel waiter).1 := by
  refine .single ⟨.resume caller, rfl, ?_⟩
  simp only [Channel.State.step, waits]

theorem turn_resumeTask (state : State) (config : Config) (wire : Http.Wire) (task : Task) :
    Channel.Turn config.channel (config.transport wire) task.caller state.channel
      (state.resumeTask config wire task).1.channel := by
  cases stage : task.stage with
  | sent dueAt request delivery =>
    simp only [resumeTask, stage]
    split
    · exact .refl
    · exact .refl
  | username =>
    simp only [resumeTask, stage]
    cases waits : state.channel.waiter? task.caller with
    | none => exact state.turn_withUsername config wire task none
    | some waiter =>
      let resumed := state.channel.resume config.channel waiter
      exact (turn_resume config wire waits).trans
        ((state.onto resumed.1).turn_withUsername config wire task resumed.2)
  | password username =>
    simp only [resumeTask, stage, channel_withPassword]
    cases waits : state.channel.waiter? task.caller with
    | none => exact .refl
    | some waiter => exact turn_resume config wire waits

/-- **What a caller does to a client is a turn of the same caller on the channel.** -/
theorem step_turn (config : Config) (wire : Http.Wire) (state : State) {event : Event}
    {caller : Nat} (mine : event.caller? = some caller) :
    Channel.Turn config.channel (config.transport wire) caller state.channel
      (state.step config wire event).1.channel := by
  cases event with
  | call other call =>
    cases mine
    rw [step]
    by_cases busy : state.isBusy caller = true
    · rw [if_pos busy]
    · rw [if_neg busy]
      cases call with
      | channel call => exact .single ⟨.call caller call, rfl, rfl⟩
      | submit submission =>
        let called :=
          state.channel.call config.channel (config.transport wire) caller submission.sealing
        exact .head (.call caller submission.sealing) rfl
          ((state.onto called.1).turn_withUsername config wire
            ⟨caller, submission, state.channel.now, .username⟩ called.2)
  | resume other =>
    cases mine
    simp only [step]
    cases found : state.task? caller with
    | some task =>
      rw [← caller_of_task? found]
      exact state.turn_resumeTask config wire task
    | none =>
      cases waits : state.channel.waiter? caller with
      | none => exact .refl
      | some waiter => exact turn_resume config wire waits
  | abandon other =>
    cases mine
    exact .single ⟨.abandon caller, rfl, rfl⟩
  | elapse span => cases mine

end State

/-! ## What an event does to a submission -/

/-- What a submission that ends is answered. -/
def Task.answer (task : Task) (ended : Nat) (result : Result) : Answer :=
  ⟨task.caller, .submit task.submission, task.begun, ended, result⟩

/-- A submission ends its wait for the key exchange: it sends its request or ends without one. -/
structure Finishes (config : Config) (wire : Http.Wire) (state : State) (task : Task)
    (outcome : Channel.Outcome) (next : State × Option Answer) : Prop where
  free : next.1.channel.waiter? task.caller = none
  held : ∀ material, outcome = .ok material → next.1.channel.slot = .established material
  result : ∃ done, done = (state.onto next.1.channel).finish config wire task
      (task.submission.request config outcome) ∧
    next = (done.1, done.2.map (task.answer state.channel.now))

namespace Finishes

variable {config : Config} {wire : Http.Wire} {state : State} {task : Task}
  {outcome : Channel.Outcome} {next : State × Option Answer}

/-- What the channel says about the user name ends the wait. -/
theorem of_withUsername (channel : Channel.State) (free : channel.waiter? task.caller = none)
    (held : ∀ material, outcome = .ok material → channel.slot = .established material)
    (result : ∃ done, done = (state.onto channel).withUsername config wire task (some
        ((Channel.Purpose.sealing task.submission.username task.submission.usernameSalt).conclude
          outcome)) ∧ next = (done.1, done.2.map (task.answer state.channel.now))) :
    next.1.channel = channel ∧ Finishes config wire state task outcome next := by
  obtain ⟨done, same, rfl⟩ := result
  rw [State.withUsername_eq config wire task free held] at same
  have kept : done.1.channel = channel := by
    rw [same]
    exact State.channel_finish _ config wire task _
  refine ⟨kept, kept ▸ free, kept ▸ held, done, ?_, rfl⟩
  rw [kept]
  exact same

theorem of_error (finishes : Finishes config wire state task outcome next) {fault : Fault}
    (refused : task.submission.request config outcome = .error fault) :
    next.1.tasks = (state.dismiss task.caller).tasks ∧ next.1.sent = state.sent ∧
      next.2 = some (task.answer state.channel.now (.error fault)) := by
  obtain ⟨done, same, result⟩ := finishes.result
  rw [refused] at same
  rw [result, same]
  exact ⟨rfl, rfl, rfl⟩

theorem of_ok (finishes : Finishes config wire state task outcome next) {request : Http.Request}
    (sends : task.submission.request config outcome = .ok request) :
    next.1.sent = state.sent ++ [⟨task.caller, task.submission, request⟩] ∧ ∃ delivery,
      next.1.tasks = (state.dismiss task.caller).tasks ∧
        next.2 = some (task.answer state.channel.now (State.conclude request delivery)) ∨
      ∃ dueAt, next.1.tasks =
        (state.keep { task with stage := .sent dueAt request delivery }).tasks ∧
        next.2 = none := by
  obtain ⟨done, same, result⟩ := finishes.result
  rw [sends] at same
  obtain ⟨delivery, posted⟩ :=
    (state.onto next.1.channel).post_cases config wire task request
  have sent : done = _ := same
  rcases posted with prompt | ⟨dueAt, later⟩
  · rw [State.finish, prompt] at sent
    rw [result, sent]
    exact ⟨rfl, delivery, .inl ⟨rfl, rfl⟩⟩
  · rw [State.finish, later] at sent
    rw [result, sent]
    exact ⟨rfl, delivery, .inr ⟨dueAt, rfl, rfl⟩⟩

end Finishes

namespace State

variable {config : Config} {wire : Http.Wire} {state : State}

theorem not_isBusy_iff {caller : Nat} :
    state.isBusy caller = false ↔
      state.task? caller = none ∧ state.channel.waiter? caller = none := by
  simp only [isBusy, Bool.or_eq_false_iff, Option.isSome_eq_false_iff, Option.isNone_iff_eq_none]

/-- A caller that makes a submission waits for an attempt, or its key exchange has ended. -/
theorem step_submit (invariant : Channel.Invariant config.channel (config.transport wire)
    state.channel) {caller : Nat} (free : state.isBusy caller = false) (submission : Submission) :
    let task : Task := ⟨caller, submission, state.channel.now, .username⟩
    let next := state.step config wire (.call caller (.submit submission))
    (∃ number, state.channel.joined? = some number ∧ next.1.channel.waiter? caller =
        some (submission.waiter caller state.channel.now number) ∧
        next = ((state.onto next.1.channel).keep task, none)) ∨
      ∃ outcome, state.channel.Concludes next.1.channel outcome ∧
        Finishes config wire state task outcome next := by
  intro task next
  let called := state.channel.call config.channel (config.transport wire) caller submission.sealing
  let done := (state.onto called.1).withUsername config wire task called.2
  have stepped : next = (done.1, done.2.map (task.answer state.channel.now)) := by
    simp only [next, step, free, Bool.false_eq_true, if_false]
    rfl
  have reached : Channel.Moves config.channel (config.transport wire) state.channel called.1 :=
    state.channel.call_moves caller submission.sealing
  rcases Channel.State.call_sealText config.channel (config.transport wire)
      (not_isBusy_iff.mp free).2 submission.username submission.usernameSalt with
    ⟨number, joined, silent, waits⟩ | ⟨outcome, concludes, absent, said⟩
  · left
    have kept : done = ((state.onto called.1).keep task, none) := by
      have silent : called.2 = none := silent
      simp only [done, silent]
      rfl
    rw [kept] at stepped
    rw [stepped]
    exact ⟨number, joined, waits, rfl⟩
  · right
    have held : ∀ material, outcome = .ok material → called.1.slot = .established material := by
      rintro material rfl
      exact concludes.slot invariant reached
    have told : done = _ := congrArg ((state.onto called.1).withUsername config wire task) said
    obtain ⟨same, finishes⟩ : next.1.channel = called.1 ∧
        Finishes config wire state task outcome next :=
      Finishes.of_withUsername called.1 absent held ⟨done, told, stepped⟩
    exact ⟨outcome, same ▸ concludes, finishes⟩

/-- A submission that waits for its key exchange looks again and sees nothing, as nobody before it,
or the key exchange has ended. -/
theorem step_resume_waiting (invariant : Channel.Invariant config.channel (config.transport wire)
    state.channel) {caller : Nat} {task : Task} (found : state.task? caller = some task)
    (stage : task.stage = .username) {number : Nat}
    (waits : state.channel.waiter? caller =
      some (task.submission.waiter caller task.begun number)) :
    let next := state.step config wire (.resume caller)
    (next = (state.keep task, none) ∧ state.channel.ended? number = none) ∨
      ∃ outcome, next.1.channel.ended? number = some outcome ∧
        Finishes config wire state task outcome next := by
  intro next
  obtain rfl := caller_of_task? found
  let waiter := task.submission.waiter task.caller task.begun number
  let resumed := state.channel.resume config.channel waiter
  let done := (state.onto resumed.1).withUsername config wire task resumed.2
  have stepped : next = (done.1, done.2.map (task.answer state.channel.now)) := by
    simp only [next, step, found, resumeTask, stage, waits]
    rfl
  rcases Channel.State.resume_waiter config.channel waits with
    ⟨blind, unknown⟩ | ⟨outcome, ended, absent, said⟩
  · left
    refine ⟨?_, unknown⟩
    have blind : resumed = (state.channel, none) := blind
    -- the submission is put back as it was, behind those of the others
    have unmoved : { task with stage := .username } = task := by
      rw [← stage]
    rw [stepped]
    simp only [done, blind]
    exact congrArg (fun kept => (state.keep kept, none)) unmoved
  · right
    have reached : Channel.Moves config.channel (config.transport wire) state.channel resumed.1 :=
      state.channel.resume_moves waiter
    have held : ∀ material, outcome = .ok material → resumed.1.slot = .established material := by
      rintro material rfl
      exact (invariant.moves reached).slot_of_ended ended
    have told : done = _ := congrArg ((state.onto resumed.1).withUsername config wire task) said
    obtain ⟨same, finishes⟩ : next.1.channel = resumed.1 ∧
        Finishes config wire state task outcome next :=
      Finishes.of_withUsername resumed.1 absent held ⟨done, told, stepped⟩
    exact ⟨outcome, same ▸ ended, finishes⟩

/-- A submission whose request is sent ends when its response is there. -/
theorem step_resume_sent (config : Config) (wire : Http.Wire) {caller : Nat} {task : Task}
    (found : state.task? caller = some task) {dueAt : Nat} {request : Http.Request}
    {delivery : Http.Delivery} (stage : task.stage = .sent dueAt request delivery) :
    state.step config wire (.resume caller) =
      if dueAt ≤ state.channel.now then
        (state.dismiss caller, some (task.answer state.channel.now (conclude request delivery)))
      else (state, none) := by
  obtain rfl := caller_of_task? found
  simp only [step, found, resumeTask, stage]
  split
  · rfl
  · rfl

/-- Whoever waits for nothing sees nothing. -/
theorem step_resume_free (config : Config) (wire : Http.Wire) {caller : Nat}
    (free : state.isBusy caller = false) :
    state.step config wire (.resume caller) = (state, none) := by
  obtain ⟨idle, absent⟩ := not_isBusy_iff.mp free
  simp only [step, idle, absent]

end State

/-! ## What an event can do -/

/-- An event goes on with a submission that has not sent its request: the call that begins it, or a
look by its caller. -/
inductive State.Pursues (state : State) : Event → Task → Prop where
  | begun {caller : Nat} (free : state.isBusy caller = false) (submission : Submission) :
      state.Pursues (.call caller (.submit submission))
        ⟨caller, submission, state.channel.now, .username⟩
  | resumed {caller : Nat} {task : Task} (found : state.task? caller = some task)
      (stage : task.stage = .username) : state.Pursues (.resume caller) task

/-- The ways in which the submissions of a client change, and the requests that it has sent for
them. -/
inductive State.Change (config : Config) (state next : State) (event : Event) : Prop where
  /-- The event is about something else; then its caller has no submission, or the channel stays as
  it is. -/
  | aside (tasks : next.tasks = state.tasks) (sent : next.sent = state.sent)
      (kept : ∀ caller, event.caller? = some caller →
        state.task? caller = none ∨ next.channel = state.channel)
  /-- A submission ends, and nothing is sent. -/
  | drops {caller : Nat} (mine : event.caller? = some caller)
      (tasks : next.tasks = (state.dismiss caller).tasks) (sent : next.sent = state.sent)
  /-- A submission waits for its key exchange. -/
  | waits {task : Task} (pursues : state.Pursues event task) (seated : task.Seated next.channel)
      (tasks : next.tasks = (state.keep task).tasks) (sent : next.sent = state.sent)
  /-- A submission sends its request, and waits for the response or has it at once. -/
  | posts {task : Task} {material : Material} {request : Http.Request}
      (pursues : state.Pursues event task)
      (held : next.channel.slot = .established material)
      (sends : task.submission.request config (.ok material) = .ok request)
      (sent : next.sent = state.sent ++ [⟨task.caller, task.submission, request⟩])
      (tasks : next.tasks = (state.dismiss task.caller).tasks ∨ ∃ dueAt delivery,
        next.tasks = (state.keep { task with stage := .sent dueAt request delivery }).tasks)

namespace State

variable {config : Config} {wire : Http.Wire} {state : State}

theorem Pursues.caller? {event : Event} {task : Task} (pursues : state.Pursues event task) :
    event.caller? = some task.caller := by
  cases pursues with
  | begun free submission => rfl
  | resumed found stage => exact congrArg some (caller_of_task? found).symm

theorem Pursues.stage {event : Event} {task : Task} (pursues : state.Pursues event task) :
    task.stage = .username := by
  cases pursues with
  | begun free submission => rfl
  | resumed found stage => exact stage

/-- The end of a wait for the key exchange drops the submission or sends its request. -/
theorem change_of_finishes {event : Event} {task : Task} (pursues : state.Pursues event task)
    {outcome : Channel.Outcome} {next : State × Option Answer}
    (finishes : Finishes config wire state task outcome next) :
    state.Change config next.1 event := by
  cases sends : task.submission.request config outcome with
  | error fault =>
    obtain ⟨tasks, sent, -⟩ := finishes.of_error sends
    exact .drops pursues.caller? tasks sent
  | ok request =>
    cases outcome with
    | error fault => cases sends
    | ok material =>
      obtain ⟨sent, delivery, done⟩ := finishes.of_ok sends
      refine .posts pursues (finishes.held material rfl) sends sent ?_
      rcases done with ⟨tasks, -⟩ | ⟨dueAt, tasks, -⟩
      · exact .inl tasks
      · exact .inr ⟨dueAt, delivery, tasks⟩

/-- **Every event changes the submissions of a client in one of these ways.** -/
theorem step_change (wire : Http.Wire)
    (invariant : Channel.Invariant config.channel (config.transport wire) state.channel)
    (seated : ∀ task ∈ state.tasks, task.Seated state.channel) (event : Event) :
    state.Change config (state.step config wire event).1 event := by
  cases event with
  | call caller call =>
    by_cases busy : state.isBusy caller = true
    · rw [step, if_pos busy]
      exact .aside rfl rfl fun _ _ => .inr rfl
    · have free : state.isBusy caller = false := Bool.not_eq_true _ ▸ busy
      cases call with
      | channel call =>
        rw [step, if_neg busy]
        refine .aside rfl rfl fun other mine => .inl ?_
        cases mine
        exact (not_isBusy_iff.mp free).1
      | submit submission =>
        rcases step_submit invariant free submission with
          ⟨number, -, waits, same⟩ | ⟨outcome, -, finishes⟩
        · rw [same] at waits ⊢
          exact .waits (.begun free submission) (.waiting number rfl waits) rfl rfl
        · exact change_of_finishes (.begun free submission) finishes
  | resume caller =>
    cases found : state.task? caller with
    | none =>
      -- whoever waits without a submission has called the channel itself
      obtain ⟨channel, same⟩ : ∃ channel,
          (state.step config wire (.resume caller)).1 = state.onto channel := by
        simp only [step, found]
        cases state.channel.waiter? caller with
        | none => exact ⟨state.channel, rfl⟩
        | some waiter => exact ⟨(state.channel.resume config.channel waiter).1, rfl⟩
      rw [same]
      refine .aside rfl rfl fun other mine => .inl ?_
      cases mine
      exact found
    | some task =>
      cases seated task (mem_of_task? found) with
      | waiting number stage waits =>
        have mine := caller_of_task? found
        have pursues : state.Pursues (.resume caller) task := .resumed found stage
        rw [mine] at waits
        rcases step_resume_waiting invariant found stage waits with
          ⟨same, -⟩ | ⟨outcome, -, finishes⟩
        · rw [same]
          exact .waits pursues (.waiting number stage (mine ▸ waits)) rfl rfl
        · exact change_of_finishes pursues finishes
      | sent dueAt request delivery stage =>
        rw [step_resume_sent config wire found stage]
        split
        · exact .drops rfl rfl rfl
        · exact .aside rfl rfl fun _ _ => .inr rfl
  | abandon caller => exact .drops rfl rfl rfl
  | elapse span =>
    exact .aside rfl rfl fun caller mine => by cases mine

end State

end SealedCredentials.Client
