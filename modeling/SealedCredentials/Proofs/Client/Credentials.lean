import SealedCredentials.Proofs.Client.Change
import SealedCredentials.Proofs.Envelope.Sealing

/-!
# Credentials leave the client only as envelopes

Whatever happens on a client, a request for a submission is sent with the key in place, and its
envelopes open under that key (`Invariant`).  A caller's requests are for some of the submissions
that it asked for, in this order and each once at most (`State.run_submitted`).

One call is followed from its beginning (`Course`).  Its key exchange is the one that it begins or
joins, or the one that led to the key; once this has ended, the call ends as `Submission.request`
says, whatever others do.  Together this is `State.credentials_sealed`.
-/

set_option autoImplicit false

namespace SealedCredentials.Client

open Envelope

variable {config : Config} {wire : Http.Wire}

/-! ## Events of others -/

namespace State

variable {state : State}

/-- The requests that were sent for a caller. -/
def postings (state : State) (caller : Nat) : List Posting :=
  state.sent.filter fun posting => posting.caller == caller

theorem postings_of_sent {state next : State} (same : next.sent = state.sent) (caller : Nat) :
    next.postings caller = state.postings caller := by
  rw [postings, same, postings]

theorem postings_of_append {state next : State} {posting : Posting}
    (sent : next.sent = state.sent ++ [posting]) (caller : Nat) :
    next.postings caller =
      state.postings caller ++ if posting.caller = caller then [posting] else [] := by
  rw [postings, sent, List.filter_append, postings]
  by_cases mine : posting.caller = caller
  · simp [mine]
  · simp [mine]

/-- The channel of a client moves as a channel does. -/
theorem step_moves (config : Config) (wire : Http.Wire) (state : State) (event : Event) :
    Channel.Moves config.channel (config.transport wire) state.channel
      (state.step config wire event).1.channel := by
  cases mine : event.caller? with
  | some caller => exact (state.step_turn config wire mine).timelyRun.moves
  | none =>
    cases event with
    | elapse span => exact .single (.elapse span)
    | call | resume | abandon => cases mine

/-- An event of another does not change what a caller waits for. -/
theorem waiter?_step_of_other {event : Event} {caller : Nat} (other : event.caller? ≠ some caller) :
    (state.step config wire event).1.channel.waiter? caller = state.channel.waiter? caller := by
  cases mine : event.caller? with
  | some owner =>
    have turn := state.step_turn config wire mine
    -- what is claimed holds of every channel that the turn passes through
    generalize (state.step config wire event).1.channel = channel at turn ⊢
    induction turn with
    | refl => rfl
    | tail _ last ih =>
      obtain ⟨each, owned, rfl⟩ := last
      rw [Channel.State.waiter?_step_of_other (by rw [owned, ← mine]; exact other), ih]
  | none =>
    cases event with
    | elapse span => rfl
    | call | resume | abandon => cases mine

/-- An answer goes to whoever has just called or looked. -/
theorem caller?_of_answer {event : Event} {answer : Answer}
    (given : (state.step config wire event).2 = some answer) :
    event.caller? = some answer.caller := by
  cases event with
  | call caller call =>
    rw [step] at given
    split at given
    · cases given
    · obtain ⟨result, -, rfl⟩ := Option.map_eq_some_iff.mp given
      rfl
  | resume caller =>
    simp only [step] at given
    split at given
    · obtain ⟨result, -, rfl⟩ := Option.map_eq_some_iff.mp given
      rfl
    · obtain ⟨result, -, rfl⟩ := Option.map_eq_some_iff.mp given
      rfl
    · cases given
  | abandon caller => cases given
  | elapse span => cases given

namespace Change

variable {next : State} {event : Event} {caller : Nat}

/-- The submission of a caller is its own affair. -/
theorem task?_of_other (change : state.Change config next event)
    (other : event.caller? ≠ some caller) : next.task? caller = state.task? caller := by
  have from_tasks {same : State} (tasks : next.tasks = same.tasks) :
      next.task? caller = same.task? caller := by
    rw [task?, tasks, task?]
  have stranger {owner : Nat} (mine : event.caller? = some owner) : owner ≠ caller := by
    rintro rfl
    exact other mine
  cases change with
  | aside tasks => exact from_tasks tasks
  | drops mine tasks => rw [from_tasks tasks, task?_dismiss_of_ne (stranger mine)]
  | waits pursues _ tasks => rw [from_tasks tasks, task?_keep_of_ne (stranger pursues.caller?)]
  | @posts task material request pursues _ _ _ tasks =>
    have different : task.caller ≠ caller := stranger pursues.caller?
    rcases tasks with tasks | ⟨dueAt, delivery, tasks⟩
    · rw [from_tasks tasks, task?_dismiss_of_ne different]
    · rw [from_tasks tasks]
      exact task?_keep_of_ne different

/-- Nothing is sent for a caller while others act. -/
theorem postings_of_other (change : state.Change config next event)
    (other : event.caller? ≠ some caller) : next.postings caller = state.postings caller := by
  cases change with
  | aside _ sent => exact postings_of_sent sent caller
  | drops _ _ sent => exact postings_of_sent sent caller
  | waits _ _ _ sent => exact postings_of_sent sent caller
  | @posts task material request pursues _ _ sent =>
    have different : task.caller ≠ caller := by
      rintro rfl
      exact other pursues.caller?
    rw [postings_of_append sent, if_neg different, List.append_nil]

end Change

end State

/-! ## What holds of every reachable state -/

/-- What holds of every state that a client can reach. -/
structure Invariant (config : Config) (wire : Http.Wire) (state : State) : Prop where
  channel : Channel.Invariant config.channel (config.transport wire) state.channel
  seated : ∀ task ∈ state.tasks, task.Seated state.channel
  /-- Every request was made with the key of the channel. -/
  made : ∀ posting ∈ state.sent, ∃ material, state.channel.slot = .established material ∧
    posting.submission.request config (.ok material) = .ok posting.request

namespace Invariant

variable {state : State}

theorem fresh (now : Nat) : Invariant config wire (.fresh now) where
  channel := .fresh now
  seated := by
    intro task member
    cases member
  made := by
    intro posting member
    cases member

/-- A submission stays where it is while others act. -/
theorem seated_of_other {task : Task} (seated : task.Seated state.channel) {event : Event}
    (other : event.caller? ≠ some task.caller) :
    task.Seated (state.step config wire event).1.channel := by
  cases seated with
  | waiting number stage waits =>
    refine .waiting number stage ?_
    rw [State.waiter?_step_of_other other]
    exact waits
  | sent dueAt request delivery stage => exact .sent dueAt request delivery stage

theorem seated_step (invariant : Invariant config wire state) (event : Event) :
    ∀ task ∈ (state.step config wire event).1.tasks,
      task.Seated (state.step config wire event).1.channel := by
  intro task member
  have stays (before : task ∈ state.tasks) (other : event.caller? ≠ some task.caller) :
      task.Seated (state.step config wire event).1.channel :=
    seated_of_other (invariant.seated task before) other
  have differs {caller : Nat} (mine : event.caller? = some caller) (other : task.caller ≠ caller) :
      event.caller? ≠ some task.caller := by
    intro same
    exact other (Option.some.inj (same.symm.trans mine))
  cases state.step_change wire invariant.channel invariant.seated event with
  | aside tasks _ kept =>
    rw [tasks] at member
    -- only a caller without a submission touches its channel here
    by_cases mine : event.caller? = some task.caller
    · rcases kept task.caller mine with idle | same
      · exact absurd rfl (State.task?_eq_none_iff.mp idle task member)
      · rw [same]
        exact invariant.seated task member
    · exact stays member mine
  | drops mine tasks =>
    rw [tasks] at member
    obtain ⟨before, other⟩ := State.mem_dismiss.mp member
    exact stays before (differs mine other)
  | waits pursues seated tasks =>
    rw [tasks] at member
    rcases State.mem_keep.mp member with ⟨before, other⟩ | rfl
    · exact stays before (differs pursues.caller? other)
    · exact seated
  | posts pursues _ _ _ tasks =>
    rcases tasks with tasks | ⟨dueAt, delivery, tasks⟩
    · rw [tasks] at member
      obtain ⟨before, other⟩ := State.mem_dismiss.mp member
      exact stays before (differs pursues.caller? other)
    · rw [tasks] at member
      rcases State.mem_keep.mp member with ⟨before, other⟩ | rfl
      · exact stays before (differs pursues.caller? other)
      · exact .sent dueAt _ delivery rfl

theorem made_step (invariant : Invariant config wire state) (event : Event) :
    ∀ posting ∈ (state.step config wire event).1.sent, ∃ material,
      (state.step config wire event).1.channel.slot = .established material ∧
        posting.submission.request config (.ok material) = .ok posting.request := by
  intro posting member
  have before (earlier : posting ∈ state.sent) : ∃ material,
      (state.step config wire event).1.channel.slot = .established material ∧
        posting.submission.request config (.ok material) = .ok posting.request := by
    obtain ⟨material, held, made⟩ := invariant.made posting earlier
    have moves := state.step_moves config wire event
    exact ⟨material, (invariant.channel.established_moves held moves).1, made⟩
  cases state.step_change wire invariant.channel invariant.seated event with
  | aside _ sent => exact before (sent ▸ member)
  | drops _ _ sent => exact before (sent ▸ member)
  | waits _ _ _ sent => exact before (sent ▸ member)
  | @posts task material request _ held sends sent =>
    rw [sent] at member
    rcases List.mem_append.mp member with earlier | last
    · exact before earlier
    · rw [List.mem_singleton.mp last]
      exact ⟨material, held, sends⟩

theorem step (invariant : Invariant config wire state) (event : Event) :
    Invariant config wire (state.step config wire event).1 where
  channel := invariant.channel.moves (state.step_moves config wire event)
  seated := invariant.seated_step event
  made := invariant.made_step event

end Invariant

namespace State

theorem run_cons (state : State) (event : Event) (later : List Event) :
    run config wire state (event :: later) =
      ((run config wire (state.step config wire event).1 later).1,
        (state.step config wire event).2.toList ++
          (run config wire (state.step config wire event).1 later).2) := rfl

/-- A run goes on from where its first part ended. -/
theorem run_append (state : State) (earlier later : List Event) :
    run config wire state (earlier ++ later) =
      ((run config wire (run config wire state earlier).1 later).1,
        (run config wire state earlier).2 ++
          (run config wire (run config wire state earlier).1 later).2) := by
  induction earlier generalizing state with
  | nil => rfl
  | cons event rest ih => rw [List.cons_append, run_cons, ih, run_cons, List.append_assoc]

end State

/-- **The invariant holds throughout every run.** -/
theorem Invariant.run {state : State} (invariant : Invariant config wire state)
    (events : List Event) : Invariant config wire (state.run config wire events).1 := by
  induction events generalizing state with
  | nil => exact invariant
  | cons event later ih =>
    rw [State.run_cons]
    exact ih (invariant.step event)

/-! ## One request for each submission -/

/-- The submission that a caller asks for with an event. -/
def Event.submission? (caller : Nat) : Event → Option Submission
  | .call other (.submit submission) => if other = caller then some submission else none
  | _ => none

namespace State

variable {state : State}

/-- The submissions whose requests were sent for a caller. -/
def submitted (state : State) (caller : Nat) : List Submission :=
  (state.postings caller).map Posting.submission

/-- The submission of a caller whose request is still to be sent. -/
def unsent (state : State) (caller : Nat) : List Submission :=
  match state.task? caller with
  | some task => if task.stage = .username then [task.submission] else []
  | none => []

theorem unsent_of_tasks {next : State} (same : next.tasks = state.tasks) (caller : Nat) :
    next.unsent caller = state.unsent caller := by
  rw [unsent, task?, same, unsent, task?]

theorem unsent_dismiss (state : State) (caller : Nat) :
    (state.dismiss caller).unsent caller = [] := by
  rw [unsent, task?_dismiss_self]

theorem unsent_keep (state : State) (task : Task) :
    (state.keep task).unsent task.caller =
      if task.stage = .username then [task.submission] else [] := by
  rw [unsent, task?_keep_self]

theorem submitted_of_append {next : State} {posting : Posting}
    (sent : next.sent = state.sent ++ [posting]) :
    next.submitted posting.caller = state.submitted posting.caller ++ [posting.submission] := by
  rw [submitted, postings_of_append sent, if_pos rfl, List.map_append]
  rfl

/-- The submission that an event goes on with was to be sent before, or it is asked for. -/
theorem Pursues.unsent {event : Event} {task : Task} (pursues : state.Pursues event task) :
    state.unsent task.caller ++ (event.submission? task.caller).toList = [task.submission] := by
  cases pursues with
  | begun free submission =>
    have idle := (not_isBusy_iff.mp free).1
    simp only [State.unsent, idle, Event.submission?, if_true]
    rfl
  | resumed found stage =>
    rw [caller_of_task? found]
    simp only [State.unsent, found, stage, Event.submission?, if_true]
    rfl

/-- One event sends at most what was to be sent, or what it asks for. -/
theorem step_submitted (invariant : Invariant config wire state) (event : Event) (caller : Nat) :
    let next := (state.step config wire event).1
    (next.submitted caller ++ next.unsent caller).Sublist
      (state.submitted caller ++ state.unsent caller ++ (event.submission? caller).toList) := by
  intro next
  have change : state.Change config next event :=
    state.step_change wire invariant.channel invariant.seated event
  by_cases mine : event.caller? = some caller
  · cases change with
    | aside tasks sent =>
      rw [submitted, postings_of_sent sent, unsent_of_tasks tasks]
      exact List.sublist_append_left _ _
    | drops owned tasks sent =>
      cases mine.symm.trans owned
      rw [submitted, postings_of_sent sent, unsent_of_tasks tasks, unsent_dismiss, List.append_nil,
        List.append_assoc]
      exact List.sublist_append_left _ _
    | @waits task pursues _ tasks sent =>
      cases mine.symm.trans pursues.caller?
      have same : next.submitted task.caller ++ next.unsent task.caller =
          state.submitted task.caller ++ [task.submission] := by
        rw [submitted, postings_of_sent sent, unsent_of_tasks tasks, unsent_keep, pursues.stage,
          if_pos rfl, submitted]
      rw [List.append_assoc, pursues.unsent]
      exact same ▸ List.Sublist.refl _
    | @posts task material request pursues _ _ sent tasks =>
      cases mine.symm.trans pursues.caller?
      have none_left : next.unsent task.caller = [] := by
        rcases tasks with tasks | ⟨dueAt, delivery, tasks⟩
        · rw [unsent_of_tasks tasks, unsent_dismiss]
        · rw [unsent_of_tasks tasks]
          exact (state.unsent_keep _).trans (if_neg fun impossible => by cases impossible)
      have same : next.submitted task.caller ++ next.unsent task.caller =
          state.submitted task.caller ++ [task.submission] := by
        rw [none_left, List.append_nil]
        exact submitted_of_append sent
      rw [List.append_assoc, pursues.unsent]
      exact same ▸ List.Sublist.refl _
  · have same : next.task? caller = state.task? caller := change.task?_of_other mine
    rw [submitted, change.postings_of_other mine, State.unsent, same]
    exact List.sublist_append_left _ _

/-- **Each submission is sent once at most.**  The requests of a caller are for some of the
submissions that it asked for, in the same order. -/
theorem run_submitted (invariant : Invariant config wire state) (events : List Event)
    (caller : Nat) :
    let final := (state.run config wire events).1
    (final.submitted caller ++ final.unsent caller).Sublist
      (state.submitted caller ++ state.unsent caller ++
        events.filterMap (Event.submission? caller)) := by
  induction events generalizing state with
  | nil =>
    rw [List.filterMap_nil, List.append_nil]
    exact List.Sublist.refl _
  | cons event later ih =>
    have split : (event :: later).filterMap (Event.submission? caller) =
        (event.submission? caller).toList ++ later.filterMap (Event.submission? caller) := by
      cases asked : event.submission? caller with
      | none => rw [List.filterMap_cons_none asked, Option.toList_none, List.nil_append]
      | some submission => rw [List.filterMap_cons_some asked]; rfl
    -- the later events send what the first one has left to send, or what they ask for
    rw [run_cons, split, ← List.append_assoc]
    exact (ih (invariant.step event)).trans
      ((step_submitted invariant event caller).append_right _)

end State

/-! ## One call from its beginning -/

/-- The answers that a caller has got. -/
def answersTo (caller : Nat) (answers : List Answer) : List Answer :=
  answers.filter fun answer => answer.caller == caller

theorem answersTo_append (caller : Nat) (answers more : List Answer) :
    answersTo caller (answers ++ more) = answersTo caller answers ++ answersTo caller more :=
  List.filter_append ..

/-- A caller that had no answer gets one. -/
theorem answersTo_answer (task : Task) {answers : List Answer}
    (silent : answersTo task.caller answers = []) (ended : Nat) (result : Result) :
    answersTo task.caller (answers ++ (some (task.answer ended result)).toList) =
      [⟨task.caller, .submit task.submission, task.begun, ended, result⟩] := by
  rw [answersTo_append, silent]
  simp [answersTo, Task.answer]

/-- What becomes of a submission that a free caller asks for in the state `before`, by a later state
after more events and answers: it waits for its key exchange, or the end of this has decided what it
sends and how it ends.  Whoever has left may have sent its request before. -/
inductive Course (config : Config) (before : State) (caller : Nat) (submission : Submission)
    (events : List Event) (state : State) (answers : List Answer) : Prop where
  | waiting {number : Nat} (joined : before.channel.joined? = some number)
      (task : state.task? caller = some ⟨caller, submission, before.channel.now, .username⟩)
      (waits : state.channel.waiter? caller =
        some (submission.waiter caller before.channel.now number))
      (unposted : state.postings caller = before.postings caller)
      (silent : answersTo caller answers = [])
  | refused {outcome : Channel.Outcome} {fault : Fault} {ended : Nat}
      (concludes : before.channel.Concludes state.channel outcome)
      (refuses : submission.request config outcome = .error fault)
      (free : state.isBusy caller = false)
      (unposted : state.postings caller = before.postings caller)
      (said : answersTo caller answers =
        [⟨caller, .submit submission, before.channel.now, ended, .error fault⟩])
  | posted {outcome : Channel.Outcome} {request : Http.Request} {dueAt : Nat}
      {delivery : Http.Delivery} (concludes : before.channel.Concludes state.channel outcome)
      (sends : submission.request config outcome = .ok request)
      (task : state.task? caller =
        some ⟨caller, submission, before.channel.now, .sent dueAt request delivery⟩)
      (absent : state.channel.waiter? caller = none)
      (posted : state.postings caller = before.postings caller ++ [⟨caller, submission, request⟩])
      (silent : answersTo caller answers = [])
  | answered {outcome : Channel.Outcome} {request : Http.Request} {ended : Nat}
      {delivery : Http.Delivery} (concludes : before.channel.Concludes state.channel outcome)
      (sends : submission.request config outcome = .ok request)
      (free : state.isBusy caller = false)
      (posted : state.postings caller = before.postings caller ++ [⟨caller, submission, request⟩])
      (said : answersTo caller answers = [⟨caller, .submit submission, before.channel.now, ended,
        State.conclude request delivery⟩])
  | gone (left : .abandon caller ∈ events) (free : state.isBusy caller = false)
      (posted : state.postings caller = before.postings caller ∨
        ∃ outcome request, before.channel.Concludes state.channel outcome ∧
          submission.request config outcome = .ok request ∧
          state.postings caller = before.postings caller ++ [⟨caller, submission, request⟩])

namespace Course

variable {before state next : State} {caller : Nat} {submission : Submission}
  {events longer : List Event} {answers given : List Answer}

/-- A submission sends at most one request, and the end of its key exchange says which. -/
theorem postings_cases (course : Course config before caller submission events state answers) :
    state.postings caller = before.postings caller ∨
      ∃ outcome request, before.channel.Concludes state.channel outcome ∧
        submission.request config outcome = .ok request ∧
        state.postings caller = before.postings caller ++ [⟨caller, submission, request⟩] := by
  cases course with
  | waiting _ _ _ unposted => exact .inl unposted
  | refused _ _ _ unposted => exact .inl unposted
  | posted concludes sends _ _ posted => exact .inr ⟨_, _, concludes, sends, posted⟩
  | answered concludes sends _ posted => exact .inr ⟨_, _, concludes, sends, posted⟩
  | gone _ _ posted => exact posted

/-- What does not touch the caller does not touch its submission. -/
theorem frame (course : Course config before caller submission events state answers)
    (task : next.task? caller = state.task? caller)
    (waits : next.channel.waiter? caller = state.channel.waiter? caller)
    (postings : next.postings caller = state.postings caller)
    (remembers : ∀ outcome, before.channel.Concludes state.channel outcome →
      before.channel.Concludes next.channel outcome)
    (silent : answersTo caller given = []) (kept : events ⊆ longer) :
    Course config before caller submission longer next (answers ++ given) := by
  have said : answersTo caller (answers ++ given) = answersTo caller answers := by
    rw [answersTo_append, silent, List.append_nil]
  have busy : next.isBusy caller = state.isBusy caller := by
    rw [State.isBusy, task, waits, State.isBusy]
  cases course with
  | waiting joined there waited unposted unsaid =>
    exact .waiting joined (task.trans there) (waits.trans waited) (postings.trans unposted)
      (said.trans unsaid)
  | refused concludes refuses free unposted refusal =>
    exact .refused (remembers _ concludes) refuses (busy.trans free) (postings.trans unposted)
      (said.trans refusal)
  | posted concludes sends there absent posted unsaid =>
    exact .posted (remembers _ concludes) sends (task.trans there) (waits.trans absent)
      (postings.trans posted) (said.trans unsaid)
  | answered concludes sends free posted response =>
    exact .answered (remembers _ concludes) sends (busy.trans free) (postings.trans posted)
      (said.trans response)
  | gone left free posted =>
    refine .gone (kept left) (busy.trans free) ?_
    rw [postings]
    rcases posted with unposted | ⟨outcome, request, concludes, sends, posted⟩
    · exact .inl unposted
    · exact .inr ⟨outcome, request, remembers outcome concludes, sends, posted⟩

/-- Once its key exchange has ended, a submission ends or waits for its response. -/
theorem of_finishes {outcome : Channel.Outcome} {next : State × Option Answer}
    (finishes : Finishes config wire state ⟨caller, submission, before.channel.now, .username⟩
      outcome next)
    (concludes : before.channel.Concludes next.1.channel outcome)
    (unposted : state.postings caller = before.postings caller)
    (silent : answersTo caller answers = []) :
    Course config before caller submission events next.1 (answers ++ next.2.toList) := by
  have task?_of_tasks {same : State} (tasks : next.1.tasks = same.tasks) :
      next.1.task? caller = same.task? caller := by
    rw [State.task?, tasks, State.task?]
  have free (idle : next.1.task? caller = none) : next.1.isBusy caller = false :=
    State.not_isBusy_iff.mpr ⟨idle, finishes.free⟩
  let task : Task := ⟨caller, submission, before.channel.now, .username⟩
  have said {result : Result} {ended : Nat} (given : next.2 = some (task.answer ended result)) :
      answersTo caller (answers ++ next.2.toList) =
        [⟨caller, .submit submission, before.channel.now, ended, result⟩] := by
    rw [given]
    exact answersTo_answer task silent ended result
  cases sends : submission.request config outcome with
  | error fault =>
    obtain ⟨tasks, sent, given⟩ := finishes.of_error sends
    have idle : next.1.task? caller = none :=
      (task?_of_tasks tasks).trans (state.task?_dismiss_self caller)
    exact .refused concludes sends (free idle) ((State.postings_of_sent sent caller).trans unposted)
      (said given)
  | ok request =>
    obtain ⟨sent, delivery, done⟩ := finishes.of_ok sends
    have posted : next.1.postings caller =
        before.postings caller ++ [⟨caller, submission, request⟩] := by
      rw [State.postings_of_append sent, if_pos rfl, unposted]
    rcases done with ⟨tasks, given⟩ | ⟨dueAt, tasks, given⟩
    · have idle : next.1.task? caller = none :=
        (task?_of_tasks tasks).trans (state.task?_dismiss_self caller)
      exact .answered concludes sends (free idle) posted (said given)
    · have waits : next.1.task? caller =
          some ⟨caller, submission, before.channel.now, .sent dueAt request delivery⟩ :=
        (task?_of_tasks tasks).trans (state.task?_keep_self _)
      refine .posted concludes sends waits finishes.free posted ?_
      rw [answersTo_append, silent, given]
      rfl

/-- A free caller asks for a submission. -/
theorem begin (invariant : Invariant config wire before) (free : before.isBusy caller = false)
    (submission : Submission) :
    let next := before.step config wire (.call caller (.submit submission))
    Course config before caller submission [] next.1 next.2.toList := by
  intro next
  rcases State.step_submit invariant.channel free submission with
    ⟨number, joined, waits, same⟩ | ⟨outcome, concludes, finishes⟩
  · have stepped : next = _ := same
    have task : next.1.task? caller =
        some ⟨caller, submission, before.channel.now, .username⟩ := by
      rw [stepped]
      exact State.task?_keep_self _ _
    have unposted : next.1.postings caller = before.postings caller := by
      rw [stepped]
      rfl
    refine .waiting joined task waits unposted ?_
    rw [stepped]
    rfl
  · have nothing : answersTo caller [] = [] := rfl
    exact of_finishes finishes concludes rfl nothing

/-- A step that changes nothing for the caller and answers nobody. -/
theorem still (course : Course config before caller submission events state answers)
    (task : next.task? caller = state.task? caller) (channel : next.channel = state.channel)
    (sent : next.sent = state.sent) (kept : events ⊆ longer) :
    Course config before caller submission longer next
      (answers ++ (none : Option Answer).toList) := by
  refine course.frame task (by rw [channel]) (State.postings_of_sent sent caller) ?_ rfl kept
  intro outcome concludes
  rwa [channel]

/-- The caller looks again. -/
theorem look (invariant : Invariant config wire state)
    (course : Course config before caller submission events state answers) :
    let next := state.step config wire (.resume caller)
    Course config before caller submission (events ++ [.resume caller]) next.1
      (answers ++ next.2.toList) := by
  intro next
  have kept : events ⊆ events ++ [.resume caller] := List.subset_append_left _ _
  have idle (free : state.isBusy caller = false) :
      Course config before caller submission (events ++ [.resume caller]) next.1
        (answers ++ next.2.toList) := by
    have same : next = (state, none) := State.step_resume_free config wire free
    rw [same]
    exact course.still rfl rfl rfl kept
  cases course with
  | refused _ _ free => exact idle free
  | answered _ _ free => exact idle free
  | gone _ free => exact idle free
  | waiting joined there waits unposted silent =>
    rcases State.step_resume_waiting invariant.channel there rfl waits with
      ⟨same, -⟩ | ⟨outcome, ended, finishes⟩
    · have stepped : next = _ := same
      rw [stepped]
      have seated := State.task?_keep_self state ⟨caller, submission, before.channel.now, .username⟩
      exact (Course.waiting joined there waits unposted silent).still (seated.trans there.symm) rfl
        rfl kept
    · exact of_finishes finishes (.inr ⟨_, joined, ended⟩) unposted silent
  | @posted outcome request dueAt delivery concludes sends there absent posted silent =>
    have stepped : next = _ := State.step_resume_sent config wire there rfl
    rw [stepped]
    split
    · have free : (state.dismiss caller).isBusy caller = false :=
        State.not_isBusy_iff.mpr ⟨state.task?_dismiss_self caller, absent⟩
      let task : Task :=
        ⟨caller, submission, before.channel.now, .sent dueAt request delivery⟩
      exact .answered concludes sends free posted (answersTo_answer task silent _ _)
    · exact (Course.posted concludes sends there absent posted silent).still rfl rfl rfl kept

/-- The caller leaves. -/
theorem leave (course : Course config before caller submission events state answers) :
    let next := state.step config wire (.abandon caller)
    Course config before caller submission (events ++ [.abandon caller]) next.1
      (answers ++ next.2.toList) := by
  intro next
  have free : next.1.isBusy caller = false :=
    State.not_isBusy_iff.mpr ⟨state.task?_dismiss_self caller,
      Channel.State.waiter?_dismiss_self _ caller⟩
  have left : Event.abandon caller ∈ events ++ [.abandon caller] := by simp
  exact .gone left free course.postings_cases

/-- Every event but a further call of the caller continues the course. -/
theorem step (invariant : Invariant config wire state)
    (course : Course config before caller submission events state answers) {event : Event}
    (uncalled : ∀ call, event ≠ .call caller call) :
    let next := state.step config wire event
    Course config before caller submission (events ++ [event]) next.1
      (answers ++ next.2.toList) := by
  intro next
  by_cases mine : event.caller? = some caller
  · cases event with
    | call other call =>
      cases mine
      exact absurd rfl (uncalled call)
    | resume other =>
      cases mine
      exact course.look invariant
    | abandon other =>
      cases mine
      exact course.leave
    | elapse span => cases mine
  · have change := state.step_change wire invariant.channel invariant.seated event
    refine course.frame (change.task?_of_other mine) (State.waiter?_step_of_other mine)
      (change.postings_of_other mine) ?_ ?_ (List.subset_append_left _ _)
    · intro outcome concludes
      exact concludes.extend (state.step_moves config wire event).extends
    · apply List.filter_eq_nil_iff.mpr
      intro answer member
      have given := State.caller?_of_answer (Option.mem_toList.mp member)
      simpa using fun same : answer.caller = caller => mine (same ▸ given)

/-- The course goes on as long as the caller makes no further call. -/
theorem run (invariant : Invariant config wire state)
    (course : Course config before caller submission events state answers) {later : List Event}
    (uncalled : ∀ call, .call caller call ∉ later) :
    let final := state.run config wire later
    Course config before caller submission (events ++ later) final.1 (answers ++ final.2) := by
  induction later generalizing state events answers with
  | nil =>
    intro final
    have silent : final.2 = [] := rfl
    rw [silent, List.append_nil, List.append_nil]
    exact course
  | cons event rest ih =>
    intro final
    have ran : final = _ := State.run_cons state event rest
    -- the events and answers of the course grow by what the first event adds
    rw [ran, List.append_cons, ← List.append_assoc]
    apply ih (invariant.step event)
    · exact course.step invariant fun call same => uncalled call (same ▸ List.mem_cons_self)
    · exact fun call member => uncalled call (List.mem_cons_of_mem event member)

variable {outcome : Channel.Outcome} {fault : Fault}

/-- A submission that has nothing to send sends nothing. -/
theorem unposted (course : Course config before caller submission events state answers)
    (concludes : before.channel.Concludes state.channel outcome)
    (refuses : submission.request config outcome = .error fault) :
    state.postings caller = before.postings caller := by
  rcases course.postings_cases with unposted | ⟨other, request, ends, sends, -⟩
  · exact unposted
  · rw [← concludes.unique ends, refuses] at sends
    cases sends

/-- A submission that has nothing to send says why, at the latest when its caller looks again. -/
theorem said_of_look (invariant : Invariant config wire state)
    (course : Course config before caller submission events state answers)
    (loyal : .abandon caller ∉ events)
    (concludes : before.channel.Concludes state.channel outcome)
    (refuses : submission.request config outcome = .error fault) :
    let next := state.step config wire (.resume caller)
    ∃ ended, answersTo caller (answers ++ next.2.toList) =
      [⟨caller, .submit submission, before.channel.now, ended, .error fault⟩] := by
  intro next
  cases course with
  | @waiting number joined there waits unposted silent =>
    have ended : state.channel.ended? number = some outcome := by
      rcases concludes with ⟨material, held, -⟩ | ⟨place, joined', ended⟩
      · rw [Channel.State.joined?, held] at joined
        cases joined
      · cases joined.symm.trans joined'
        exact ended
    -- an end that is known shows, so the look cannot be in vain
    rcases State.step_resume_waiting invariant.channel there rfl waits with
      ⟨-, unknown⟩ | ⟨other, known, finishes⟩
    · cases unknown.symm.trans ended
    · have same : before.channel.Concludes next.1.channel outcome :=
        concludes.extend (state.step_moves config wire (.resume caller)).extends
      cases same.unique (.inr ⟨number, joined, known⟩)
      obtain ⟨-, -, given⟩ := finishes.of_error refuses
      have answered : next.2 = _ := given
      rw [answered]
      exact ⟨_, answersTo_answer ⟨caller, submission, before.channel.now, .username⟩ silent _ _⟩
  | @refused other cause ended ends declines free _ said =>
    cases concludes.unique ends
    cases refuses.symm.trans declines
    have same : next = (state, none) := State.step_resume_free config wire free
    rw [same, answersTo_append, said]
    exact ⟨ended, rfl⟩
  | posted ends sends =>
    rw [← concludes.unique ends, refuses] at sends
    cases sends
  | answered ends sends =>
    rw [← concludes.unique ends, refuses] at sends
    cases sends
  | gone left => exact absurd left loyal

end Course

/-! ## The main result -/

namespace State

variable {state : State}

/-- What a submission sends are two envelopes, which open under the key to its user name and its
password. -/
theorem opens_of_request {submission : Submission} {material : Material} {request : Http.Request}
    (sends : submission.request config (.ok material) = .ok request) :
    ∃ address username password,
      config.endpoint submission.form = .ok address ∧
        request = ⟨address, submission.form.body username password⟩ ∧
        openText material username = .ok submission.username ∧
        openText material password = .ok submission.password := by
  rw [Submission.request, Config.submit] at sends
  cases resolved : config.endpoint submission.form with
  | error unusable =>
    rw [resolved] at sends
    cases sends
  | ok address =>
    simp only [resolved] at sends
    split at sends
    · cases sends
      exact ⟨address, _, _, rfl, rfl, openText_sealText material _ _,
        openText_sealText material _ _⟩
    · cases sends

end State

end SealedCredentials.Client
