import Mathlib.Data.List.Forall2
import SealedCredentials.Proofs.Channel.Veil
import SealedCredentials.Proofs.Client.Credentials

/-!
# A client does not look at what it submits

Put two clients side by side, and let every submission to one have its counterpart on the other: the
same form and the same salts, with other credentials (`Submission.Twin`).  If the network does not
look at the bodies of submissions either (`Http.Wire.IsScripted`), the clients stay abreast.  They
hold the same key, the same callers wait, and the same requests were sent but for their bodies
(`State.Alike`); and a submission comes to exactly the same result on both (`State.step_alike`,
`State.run_alike`).

What else relates the submissions of the two clients stays with them on their way: the relation
`pairs` of the events is also the one of the requests.
-/

set_option autoImplicit false

namespace SealedCredentials

/-- What is found first in one list is related to what is found first in the other. -/
theorem rel_find? {α β : Type} {related : α → β → Prop} {here : α → Bool} {there : β → Bool}
    (same : ∀ first second, related first second → here first = there second)
    {list : List α} {other : List β} (all : List.Forall₂ related list other) :
    Option.Rel related (list.find? here) (other.find? there) := by
  induction all with
  | nil => exact .none
  | @cons first second rest others head _ ih =>
    rw [List.find?_cons, List.find?_cons, same first second head]
    cases there second with
    | true => exact .some head
    | false => exact ih

/-- What comes back for a submission does not depend on its body. -/
def Http.Wire.IsScripted (wire : Http.Wire) : Prop :=
  ∀ (number : Nat) (request other : Http.Request), request.address = other.address →
    wire.submit number request = wire.submit number other

namespace Client

/-! ## Side by side -/

/-- Submissions that differ in their credentials only. -/
structure Submission.Twin (submission other : Submission) : Prop where
  form : submission.form = other.form
  usernameSalt : submission.usernameSalt = other.usernameSalt
  passwordSalt : submission.passwordSalt = other.passwordSalt

/-- What a caller gets, without the envelope that it may be. -/
def Product.veil : Product → Product
  | .channel given => .channel given.veil
  | .outcome given => .outcome given

section Alike

variable (pairs : Submission → Submission → Prop)

/-- Calls of the channel that look alike, or submissions that are paired. -/
inductive Call.Alike : Call → Call → Prop where
  | channel {call other : Channel.Call} (veiled : call.veil = other.veil) :
      Call.Alike (.channel call) (.channel other)
  | submit {submission other : Submission} (paired : pairs submission other) :
      Call.Alike (.submit submission) (.submit other)

/-- The same event on both sides, but for the texts that a call has sealed. -/
inductive Event.Alike : Event → Event → Prop where
  | call (caller : Nat) {asked other : Call} (alike : asked.Alike pairs other) :
      Event.Alike (.call caller asked) (.call caller other)
  | resume (caller : Nat) : Event.Alike (.resume caller) (.resume caller)
  | abandon (caller : Nat) : Event.Alike (.abandon caller) (.abandon caller)
  | elapse (span : Nat) : Event.Alike (.elapse span) (.elapse span)

/-- The same answer on both sides.  A submission comes to the same result; what the channel gives is
an envelope on both sides, or is the same. -/
structure Answer.Alike (answer other : Answer) : Prop where
  caller : answer.caller = other.caller
  call : answer.call.Alike pairs other.call
  begun : answer.begun = other.begun
  ended : answer.ended = other.ended
  result : answer.result.map Product.veil = other.result.map Product.veil
  submitted : ∀ submission, answer.call = .submit submission → answer.result = other.result

/-- Submissions have come equally far.  What will come back for their requests is the same. -/
inductive Stage.Alike : Stage → Stage → Prop where
  | username : Stage.Alike .username .username
  | password (username other : String) : Stage.Alike (.password username) (.password other)
  | sent (dueAt : Nat) {request other : Http.Request} (delivery : Http.Delivery)
      (address : request.address = other.address) :
      Stage.Alike (.sent dueAt request delivery) (.sent dueAt other delivery)

/-- The same caller waits on both sides, with submissions that are paired. -/
structure Task.Alike (task other : Task) : Prop where
  caller : task.caller = other.caller
  submission : pairs task.submission other.submission
  begun : task.begun = other.begun
  stage : task.stage.Alike other.stage

/-- A request was sent for the same caller and to the same address on both sides. -/
structure Posting.Alike (posting other : Posting) : Prop where
  caller : posting.caller = other.caller
  submission : pairs posting.submission other.submission
  address : posting.request.address = other.request.address

/-- Clients that are abreast. -/
structure State.Alike (state other : State) : Prop where
  channel : state.channel.Alike other.channel
  tasks : List.Forall₂ (Task.Alike pairs) state.tasks other.tasks
  sent : List.Forall₂ (Posting.Alike pairs) state.sent other.sent

/-- An operation leaves clients abreast and brings the same result if any. -/
structure State.EndsAlike (done other : State × Option Result) : Prop where
  state : done.1.Alike pairs other.1
  result : done.2 = other.2

/-- A step leaves clients abreast and brings the same answer if any. -/
structure State.StepsAlike (next other : State × Option Answer) : Prop where
  state : next.1.Alike pairs other.1
  answers : List.Forall₂ (Answer.Alike pairs) next.2.toList other.2.toList

end Alike

variable {pairs : Submission → Submission → Prop} {config : Config} {wire : Http.Wire}

/-! ## Requests -/

/-- The envelopes decide neither whether a request can be made for a form, nor its address. -/
theorem Config.submit_map_address (config : Config) (form : Form)
    (username password other another : String) :
    (config.submit form username password).map Http.Request.address =
      (config.submit form other another).map Http.Request.address := by
  unfold submit
  cases config.endpoint form with
  | error unusable => rfl
  | ok address =>
    -- the address decides whether a request can be sent, and how it is shown
    dsimp only
    generalize form.body username password = body
    generalize form.body other another = body'
    by_cases web : Http.Request.isSendable ⟨address, body⟩ = true
    · have web' : Http.Request.isSendable ⟨address, body'⟩ = true := web
      rw [if_pos web, if_pos web']
      rfl
    · have web' : ¬Http.Request.isSendable ⟨address, body'⟩ = true := web
      rw [if_neg web, if_neg web']
      rfl

namespace State

variable {state other : State}

/-- What a delivery means depends on the address that the request was for. -/
theorem conclude_congr {request other : Http.Request} (address : request.address = other.address)
    (delivery : Http.Delivery) : conclude request delivery = conclude other delivery := by
  cases delivery with
  | missing => simp only [conclude, Http.Delivery.response, Http.Request.shown, address]
  | broken head => rfl
  | arrived response => rfl

/-- What a caller that waits with a submission sees of the channel. -/
def lookAgain (state : State) (config : Config) (caller : Nat) : State × Option Channel.Result :=
  match state.channel.waiter? caller with
  | none => (state, none)
  | some waiter =>
    let (channel, result) := state.channel.resume config.channel waiter
    (state.onto channel, result)

theorem resumeTask_eq (state : State) (config : Config) (wire : Http.Wire) (task : Task) :
    state.resumeTask config wire task =
      let again := state.lookAgain config task.caller
      match task.stage with
      | .username => again.1.withUsername config wire task again.2
      | .password username => again.1.withPassword config wire task username again.2
      | .sent dueAt request delivery =>
        if dueAt ≤ state.channel.now then
          (state.dismiss task.caller, some (conclude request delivery))
        else (state, none) := rfl

namespace Alike

theorem fresh (now : Nat) : (State.fresh now).Alike pairs (.fresh now) := ⟨.refl _, .nil, .nil⟩

/-! ## Tasks -/

theorem task? (alike : state.Alike pairs other) (caller : Nat) :
    Option.Rel (Task.Alike pairs) (state.task? caller) (other.task? caller) := by
  refine rel_find? ?_ alike.tasks
  intro task another related
  rw [related.caller]

theorem isBusy (alike : state.Alike pairs other) (caller : Nat) :
    state.isBusy caller = other.isBusy caller := by
  have submits : (state.task? caller).isSome = (other.task? caller).isSome := by
    have related := alike.task? caller
    generalize state.task? caller = first at related ⊢
    generalize other.task? caller = second at related ⊢
    cases related <;> rfl
  have waits : (state.channel.waiter? caller).isSome = (other.channel.waiter? caller).isSome := by
    rw [← Option.isSome_map, alike.channel.waiter? caller, Option.isSome_map]
  rw [State.isBusy, submits, waits, State.isBusy]

theorem onto (alike : state.Alike pairs other) {channel another : Channel.State}
    (same : channel.Alike another) : (state.onto channel).Alike pairs (other.onto another) :=
  ⟨same, alike.tasks, alike.sent⟩

theorem dismiss (alike : state.Alike pairs other) (caller : Nat) :
    (state.dismiss caller).Alike pairs (other.dismiss caller) where
  channel := alike.channel
  tasks := by
    refine List.rel_filter ?_ alike.tasks
    intro task another related
    simp only [related.caller]
  sent := alike.sent

variable {task another : Task}

theorem keep (alike : state.Alike pairs other) (related : task.Alike pairs another) :
    (state.keep task).Alike pairs (other.keep another) where
  channel := alike.channel
  tasks := by
    rw [State.keep, State.keep, related.caller]
    exact List.rel_append (alike.dismiss another.caller).tasks (.cons related .nil)
  sent := alike.sent

/-- A submission moves on to stages that are alike. -/
theorem keep_stage (alike : state.Alike pairs other) (related : task.Alike pairs another)
    {stage stage' : Stage} (come : stage.Alike stage') :
    EndsAlike pairs (state.keep { task with stage := stage }, none)
      (other.keep { another with stage := stage' }, none) :=
  ⟨alike.keep ⟨related.caller, related.submission, related.begun, come⟩, rfl⟩

/-- A submission ends with the same result on both sides. -/
theorem drop (alike : state.Alike pairs other) (related : task.Alike pairs another)
    (result : Result) :
    EndsAlike pairs (state.dismiss task.caller, some result)
      (other.dismiss another.caller, some result) := by
  rw [related.caller]
  exact ⟨alike.dismiss another.caller, rfl⟩

/-! ## Submissions -/

theorem post (alike : state.Alike pairs other) (config : Config) (scripted : wire.IsScripted)
    (related : task.Alike pairs another) {request request' : Http.Request}
    (address : request.address = request'.address) :
    EndsAlike pairs (state.post config wire task request)
      (other.post config wire another request') := by
  have after : (state.posted task request).Alike pairs (other.posted another request') :=
    ⟨alike.channel, alike.tasks,
      List.rel_append alike.sent (.cons ⟨related.caller, related.submission, address⟩ .nil)⟩
  unfold State.post
  -- the network sees the number of the request and its address
  rw [alike.sent.length_eq, scripted _ request request' address, alike.channel.now]
  generalize (wire.submit other.sent.length request').within config.requestLimit = brought
  obtain ⟨delay, delivery⟩ := brought
  dsimp only
  split
  · rw [conclude_congr address]
    exact after.drop related _
  · exact after.keep_stage related (.sent _ delivery address)

theorem finish (alike : state.Alike pairs other) (config : Config) (scripted : wire.IsScripted)
    (related : task.Alike pairs another) {sends sends' : Except Fault Http.Request}
    (same : sends.map Http.Request.address = sends'.map Http.Request.address) :
    EndsAlike pairs (state.finish config wire task sends)
      (other.finish config wire another sends') := by
  cases sends with
  | error fault =>
    cases sends' with
    | error fault' =>
      cases same
      exact alike.drop related (.error fault)
    | ok request' => cases same
  | ok request =>
    cases sends' with
    | error fault' => cases same
    | ok request' => exact alike.post config scripted related (Except.ok.inj same)

variable {result result' : Option Channel.Result}

theorem withPassword (alike : state.Alike pairs other) (config : Config)
    (twins : ∀ submission twin, pairs submission twin → submission.Twin twin)
    (scripted : wire.IsScripted) (related : task.Alike pairs another) (username username' : String)
    (same : result.map (·.map Channel.Product.veil) = result'.map (·.map Channel.Product.veil)) :
    EndsAlike pairs (state.withPassword config wire task username result)
      (other.withPassword config wire another username' result') := by
  rcases result with _ | fault | _ | password <;>
    rcases result' with _ | fault' | _ | password' <;> cases same
  · exact alike.keep_stage related (.password username username')
  · exact alike.drop related (.error (.channel fault))
  · exact alike.keep_stage related (.password username username')
  · rw [State.withPassword, State.withPassword, send_eq, send_eq,
      (twins _ _ related.submission).form]
    exact alike.finish config scripted related (config.submit_map_address _ _ _ _ _)

theorem withUsername (alike : state.Alike pairs other) (config : Config)
    (twins : ∀ submission twin, pairs submission twin → submission.Twin twin)
    (scripted : wire.IsScripted) (related : task.Alike pairs another)
    (same : result.map (·.map Channel.Product.veil) = result'.map (·.map Channel.Product.veil)) :
    EndsAlike pairs (state.withUsername config wire task result)
      (other.withUsername config wire another result') := by
  rcases result with _ | fault | _ | username <;>
    rcases result' with _ | fault' | _ | username' <;> cases same
  · exact alike.keep_stage related .username
  · exact alike.drop related (.error (.channel fault))
  · exact alike.keep_stage related .username
  · have sealing : (Channel.Call.sealText task.submission.password
          task.submission.passwordSalt).veil =
        (Channel.Call.sealText another.submission.password another.submission.passwordSalt).veil :=
      congrArg (Channel.Call.sealText "") (twins _ _ related.submission).passwordSalt
    have called := alike.channel.call config.channel (config.transport wire) another.caller sealing
    rw [State.withUsername, State.withUsername, related.caller]
    exact (alike.onto called.state).withPassword config twins scripted related username username'
      called.result

theorem lookAgain (alike : state.Alike pairs other) (config : Config) (caller : Nat) :
    (state.lookAgain config caller).1.Alike pairs (other.lookAgain config caller).1 ∧
      (state.lookAgain config caller).2.map (·.map Channel.Product.veil) =
        (other.lookAgain config caller).2.map (·.map Channel.Product.veil) := by
  have seats := alike.channel.waiter? caller
  unfold State.lookAgain
  cases waits : state.channel.waiter? caller with
  | none =>
    rw [waits] at seats
    rw [Option.map_eq_none_iff.mp seats.symm]
    exact ⟨alike, rfl⟩
  | some waiter =>
    rw [waits] at seats
    obtain ⟨waiter', waits', same⟩ := Option.map_eq_some_iff.mp seats.symm
    rw [waits']
    have ends := alike.channel.resume config.channel same.symm
    exact ⟨alike.onto ends.state, ends.result⟩

theorem resumeTask (alike : state.Alike pairs other) (config : Config)
    (twins : ∀ submission twin, pairs submission twin → submission.Twin twin)
    (scripted : wire.IsScripted) (related : task.Alike pairs another) :
    EndsAlike pairs (state.resumeTask config wire task)
      (other.resumeTask config wire another) := by
  obtain ⟨after, said⟩ := alike.lookAgain config another.caller
  rw [resumeTask_eq, resumeTask_eq, related.caller]
  cases stage : task.stage with
  | username =>
    cases stage' : another.stage <;> have come := related.stage <;> rw [stage, stage'] at come <;>
      cases come
    exact after.withUsername config twins scripted related said
  | password username =>
    cases stage' : another.stage <;> have come := related.stage <;> rw [stage, stage'] at come <;>
      cases come
    exact after.withPassword config twins scripted related _ _ said
  | sent dueAt request delivery =>
    cases stage' : another.stage <;> have come := related.stage <;> rw [stage, stage'] at come <;>
      cases come
    rename_i address
    dsimp only
    rw [alike.channel.now, conclude_congr address]
    split
    · exact ⟨alike.dismiss another.caller, rfl⟩
    · exact ⟨alike, rfl⟩

end Alike

/-! ## Events and runs -/

/-- Results that are the same make answers that are alike. -/
theorem EndsAlike.answered {done done' : State × Option Result} (ends : EndsAlike pairs done done')
    (caller : Nat) {call call' : Call} (asked : call.Alike pairs call') (begun ended : Nat) :
    StepsAlike pairs (done.1, done.2.map (⟨caller, call, begun, ended, ·⟩))
      (done'.1, done'.2.map (⟨caller, call', begun, ended, ·⟩)) := by
  refine ⟨ends.state, ?_⟩
  rw [ends.result]
  cases done'.2 with
  | none => exact .nil
  | some result => exact .cons ⟨rfl, asked, rfl, rfl, rfl, fun _ _ => rfl⟩ .nil

/-- Results of the channel that look alike make answers that are alike. -/
theorem Alike.relayed (alike : state.Alike pairs other)
    {done done' : Channel.State × Option Channel.Result}
    (ends : Channel.State.EndsAlike done done') (caller : Nat) {call call' : Channel.Call}
    (veiled : call.veil = call'.veil) (begun ended : Nat) :
    StepsAlike pairs
      (state.onto done.1, (done.2.map relay).map (⟨caller, .channel call, begun, ended, ·⟩))
      (other.onto done'.1,
        (done'.2.map relay).map (⟨caller, .channel call', begun, ended, ·⟩)) := by
  refine ⟨alike.onto ends.state, ?_⟩
  have relays (result : Channel.Result) :
      (relay result).map Product.veil = relay (result.map Channel.Product.veil) := by
    cases result <;> rfl
  have same := ends.result
  rcases said : done.2 with _ | result
  · rw [said] at same
    rw [Option.map_eq_none_iff.mp same.symm]
    exact .nil
  · rw [said] at same
    obtain ⟨result', said', agree⟩ := Option.map_eq_some_iff.mp same.symm
    rw [said']
    refine .cons ⟨rfl, .channel veiled, rfl, rfl, ?_, ?_⟩ .nil
    · rw [relays, relays, agree]
    · intro submission asked
      cases asked

/-- **The same event leaves clients abreast and is answered alike.** -/
theorem step_alike (alike : state.Alike pairs other) (config : Config)
    (twins : ∀ submission twin, pairs submission twin → submission.Twin twin)
    (scripted : wire.IsScripted) {event event' : Event} (same : event.Alike pairs event') :
    StepsAlike pairs (state.step config wire event) (other.step config wire event') := by
  cases same with
  | elapse span => exact ⟨alike.onto (alike.channel.elapse span), .nil⟩
  | abandon caller =>
    exact ⟨(alike.dismiss caller).onto (alike.channel.dismiss caller), .nil⟩
  | @call caller call call' asked =>
    rw [State.step, State.step, alike.isBusy caller]
    split
    · exact ⟨alike, .nil⟩
    · rw [alike.channel.now]
      cases asked with
      | channel veiled =>
        have called := alike.channel.call config.channel (config.transport wire) caller veiled
        exact alike.relayed called caller veiled _ _
      | @submit submission submission' paired =>
        have sealing : submission.sealing.veil = submission'.sealing.veil :=
          congrArg (Channel.Call.sealText "") (twins _ _ paired).usernameSalt
        have called := alike.channel.call config.channel (config.transport wire) caller sealing
        have begun : Task.Alike pairs ⟨caller, submission, state.channel.now, .username⟩
            ⟨caller, submission', other.channel.now, .username⟩ :=
          ⟨rfl, paired, alike.channel.now, .username⟩
        exact ((alike.onto called.state).withUsername config twins scripted begun
          called.result).answered caller (.submit paired) _ _
  | resume caller =>
    have submits := alike.task? caller
    have seats := alike.channel.waiter? caller
    simp only [State.step]
    rw [alike.channel.now]
    generalize state.task? caller = first at submits ⊢
    generalize other.task? caller = second at submits ⊢
    cases submits with
    | some related =>
      dsimp only
      rw [related.begun]
      exact (alike.resumeTask config twins scripted related).answered caller
        (.submit related.submission) _ _
    | none =>
      -- whoever waits without a submission has called the channel itself
      cases waits : state.channel.waiter? caller with
      | none =>
        rw [waits] at seats
        rw [Option.map_eq_none_iff.mp seats.symm]
        exact ⟨alike, .nil⟩
      | some waiter =>
        rw [waits] at seats
        obtain ⟨waiter', waits', veiled⟩ := Option.map_eq_some_iff.mp seats.symm
        obtain ⟨-, call, -, begun, -⟩ := Channel.Waiter.of_veil veiled.symm
        have resumed := alike.channel.resume config.channel veiled.symm
        have told := alike.relayed resumed caller call waiter'.begun other.channel.now
        rw [Option.map_map, Option.map_map] at told
        rw [waits']
        dsimp only
        rw [begun]
        exact told

/-- **Clients stay abreast throughout runs over the same events, and are answered alike.** -/
theorem run_alike (alike : state.Alike pairs other) (config : Config)
    (twins : ∀ submission twin, pairs submission twin → submission.Twin twin)
    (scripted : wire.IsScripted) {events others : List Event}
    (same : List.Forall₂ (Event.Alike pairs) events others) :
    (state.run config wire events).1.Alike pairs (other.run config wire others).1 ∧
      List.Forall₂ (Answer.Alike pairs) (state.run config wire events).2
        (other.run config wire others).2 := by
  induction same generalizing state other with
  | nil => exact ⟨alike, .nil⟩
  | cons first _ ih =>
    have next := step_alike alike config twins scripted first
    obtain ⟨final, answers⟩ := ih next.state
    rw [run_cons, run_cons]
    exact ⟨final, List.rel_append next.answers answers⟩

end State

end Client

end SealedCredentials
