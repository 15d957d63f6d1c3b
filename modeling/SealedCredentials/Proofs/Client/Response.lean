import SealedCredentials.Proofs.Client.Credentials
import SealedCredentials.Proofs.Http.Outcome

/-!
# What a caller learns of its response

Whatever response comes back for a submission, its caller gets an outcome: neither the status nor
the cookies nor the body can turn it into a failure.  The request leaves the client with one event
(`State.step_posts`).  From then on the response is under way, or the caller has had its outcome
(`Delivers`), until the caller looks after the response is there.  Together with what outcomes say
of responses this is `State.outcome_of_response`.
-/

set_option autoImplicit false

namespace SealedCredentials.Client

open Envelope

variable {config : Config} {wire : Http.Wire}

namespace State

variable {state : State} {event : Event} {task : Task}

/-! ## The event that sends a request -/

/-- The clock stands still while somebody acts. -/
theorem now_step_of_caller {caller : Nat} (mine : event.caller? = some caller) :
    (state.step config wire event).1.channel.now = state.channel.now :=
  (state.step_turn config wire mine).now_eq

theorem now_le_step (state : State) (event : Event) :
    state.channel.now ≤ (state.step config wire event).1.channel.now := by
  cases mine : event.caller? with
  | some caller => exact (now_step_of_caller mine).ge
  | none =>
    cases event with
    | elapse span => exact Nat.le_add_right _ _
    | call | resume | abandon => cases mine

/-- Whoever goes on with a submission sends nothing, or ends the wait for its key exchange. -/
theorem Pursues.sent_or_finishes (invariant : Invariant config wire state)
    (pursues : state.Pursues event task) :
    let next := state.step config wire event
    next.1.sent = state.sent ∨ ∃ outcome, Finishes config wire state task outcome next := by
  intro next
  cases pursues with
  | begun free submission =>
    rcases step_submit invariant.channel free submission with
      ⟨number, -, -, same⟩ | ⟨outcome, -, finishes⟩
    · have stepped : next = _ := same
      rw [stepped]
      exact .inl rfl
    · exact .inr ⟨outcome, finishes⟩
  | resumed found stage =>
    cases invariant.seated task (mem_of_task? found) with
    | sent dueAt request delivery posted => cases stage.symm.trans posted
    | waiting number _ waits =>
      rw [caller_of_task? found] at waits
      rcases step_resume_waiting invariant.channel found stage waits with
        ⟨same, -⟩ | ⟨outcome, -, finishes⟩
      · have stepped : next = _ := same
        rw [stepped]
        exact .inl rfl
      · exact .inr ⟨outcome, finishes⟩

/-- **The event that sends a request posts it for a submission.** -/
theorem step_posts (invariant : Invariant config wire state) {posting : Posting}
    (sent : (state.step config wire event).1.sent = state.sent ++ [posting]) :
    let next := state.step config wire event
    ∃ task, event.caller? = some task.caller ∧ posting.caller = task.caller ∧
      posting.submission = task.submission ∧ next.1.channel.waiter? task.caller = none ∧
      ∃ done, done = (state.onto next.1.channel).post config wire task posting.request ∧
        next = (done.1, done.2.map (task.answer state.channel.now)) := by
  intro next
  have sends : next.1.sent ≠ state.sent := by
    intro same
    have empty : [posting] = [] := List.append_right_eq_self.mp (sent.symm.trans same)
    cases empty
  cases state.step_change wire invariant.channel invariant.seated event with
  | aside _ same => exact absurd same sends
  | drops _ _ same => exact absurd same sends
  | waits _ _ _ same => exact absurd same sends
  | @posts task material request pursues _ _ _ _ =>
    rcases pursues.sent_or_finishes invariant with same | ⟨outcome, finishes⟩
    · exact absurd same sends
    · obtain ⟨done, made, result⟩ := finishes.result
      cases requested : task.submission.request config outcome with
      | error fault => exact absurd (finishes.of_error requested).2.1 sends
      | ok request =>
        have last := sent.symm.trans (finishes.of_ok requested).1
        obtain rfl : posting = ⟨task.caller, task.submission, request⟩ :=
          List.singleton_inj.mp (List.append_cancel_left last)
        rw [requested] at made
        exact ⟨task, pursues.caller?, rfl, rfl, finishes.free, done, made, result⟩

/-- A response that comes back within the limit is there after its delay. -/
theorem post_of_arrived (state : State) (task : Task) {request : Http.Request} {delay : Nat}
    {response : Http.Response}
    (arrives : wire.submit state.sent.length request = ⟨some delay, .arrived response⟩)
    (inTime : delay ≤ config.requestLimit) :
    state.post config wire task request =
      if delay = 0 then
        ((state.posted task request).dismiss task.caller, some (.ok (.outcome response.outcome)))
      else
        ((state.posted task request).keep
          { task with stage := .sent (state.channel.now + delay) request (.arrived response) },
          none) := by
  simp only [post, arrives, Http.Round.within, inTime, if_true]
  rfl

end State

/-! ## From the request to the outcome -/

/-- What has become of a submission whose response comes at an instant, with the answers to its
caller since it was sent: the response is under way, or the caller has had its outcome. -/
inductive Delivers (task : Task) (dueAt : Nat) (outcome : Http.Outcome) (state : State)
    (answers : List Answer) : Prop where
  | underway {request : Http.Request} {response : Http.Response}
      (there : state.task? task.caller =
        some { task with stage := .sent dueAt request (.arrived response) })
      (absent : state.channel.waiter? task.caller = none)
      (yields : response.outcome = outcome)
      (silent : answersTo task.caller answers = [])
  | delivered {ended : Nat} (free : state.isBusy task.caller = false)
      (due : dueAt ≤ state.channel.now)
      (said : answersTo task.caller answers =
        [task.answer ended (.ok (.outcome outcome))])

namespace Delivers

variable {task : Task} {dueAt delay : Nat} {outcome : Http.Outcome} {response : Http.Response}
  {request : Http.Request} {state next : State} {answers : List Answer}

/-- A request has been posted, and its response comes back within the limit. -/
theorem of_post (free : state.channel.waiter? task.caller = none)
    (arrives : wire.submit state.sent.length request = ⟨some delay, .arrived response⟩)
    (inTime : delay ≤ config.requestLimit) :
    let done := state.post config wire task request
    Delivers task (state.channel.now + delay) response.outcome done.1
      (done.2.map (task.answer state.channel.now)).toList := by
  intro done
  have posted : done = _ := state.post_of_arrived task arrives inTime
  by_cases prompt : delay = 0
  · rw [if_pos prompt] at posted
    rw [posted]
    have said := answersTo_answer task (rfl : answersTo task.caller [] = []) state.channel.now
      (.ok (.outcome response.outcome))
    refine .delivered ?_ ?_ said
    · exact State.not_isBusy_iff.mpr ⟨State.task?_dismiss_self _ task.caller, free⟩
    · rw [prompt]
      exact Nat.le_refl _
  · rw [if_neg prompt] at posted
    rw [posted]
    exact .underway (State.task?_keep_self _ _) free rfl rfl

/-- After the event that sends a request, its response is under way or there. -/
theorem of_sent (invariant : Invariant config wire state) {event : Event} {posting : Posting}
    (sent : (state.step config wire event).1.sent = state.sent ++ [posting])
    (arrives : wire.submit state.sent.length posting.request = ⟨some delay, .arrived response⟩)
    (inTime : delay ≤ config.requestLimit) :
    let next := state.step config wire event
    ∃ task : Task, posting.caller = task.caller ∧ posting.submission = task.submission ∧
      Delivers task (state.channel.now + delay) response.outcome next.1 next.2.toList := by
  intro next
  obtain ⟨task, mine, caller, submission, free, done, posted, stepped⟩ :=
    State.step_posts invariant sent
  refine ⟨task, caller, submission, ?_⟩
  let onward := state.onto next.1.channel
  have now : onward.channel.now = state.channel.now := State.now_step_of_caller mine
  have posts : let done := onward.post config wire task posting.request
      Delivers task (onward.channel.now + delay) response.outcome done.1
        (done.2.map (task.answer onward.channel.now)).toList := of_post free arrives inTime
  rw [← posted, now] at posts
  have same : next = _ := stepped
  rw [same]
  exact posts

/-- What neither answers nor touches the caller, and only lets time pass, changes nothing. -/
theorem frame {given : List Answer} (delivers : Delivers task dueAt outcome state answers)
    (there : next.task? task.caller = state.task? task.caller)
    (waits : next.channel.waiter? task.caller = state.channel.waiter? task.caller)
    (later : state.channel.now ≤ next.channel.now) (silent : answersTo task.caller given = []) :
    Delivers task dueAt outcome next (answers ++ given) := by
  have said : answersTo task.caller (answers ++ given) = answersTo task.caller answers := by
    rw [answersTo_append, silent, List.append_nil]
  cases delivers with
  | underway known absent yields unsaid =>
    exact .underway (there.trans known) (waits.trans absent) yields (said.trans unsaid)
  | delivered free due told =>
    have busy : next.isBusy task.caller = state.isBusy task.caller := by
      rw [State.isBusy, there, waits, State.isBusy]
    exact .delivered (busy.trans free) (due.trans later) (said.trans told)

/-- The caller looks, and if the response is there, it has its outcome. -/
theorem look (delivers : Delivers task dueAt outcome state answers) :
    let next := state.step config wire (.resume task.caller)
    let said := answersTo task.caller (answers ++ next.2.toList)
    Delivers task dueAt outcome next.1 (answers ++ next.2.toList) ∧
      (dueAt ≤ state.channel.now → ∃ ended, said = [task.answer ended (.ok (.outcome outcome))]) ∧
      (state.channel.now < dueAt → said = []) := by
  intro next said
  cases delivers with
  | @underway request response there absent yields silent =>
    have stepped : next = _ := State.step_resume_sent config wire there rfl
    by_cases due : dueAt ≤ state.channel.now
    · rw [if_pos due] at stepped
      have free : next.1.isBusy task.caller = false := by
        rw [stepped]
        exact State.not_isBusy_iff.mpr ⟨state.task?_dismiss_self task.caller, absent⟩
      have told : said = [task.answer state.channel.now (.ok (.outcome outcome))] := by
        simp only [said, stepped, ← yields]
        exact answersTo_answer task silent _ _
      have still : next.1.channel.now = state.channel.now := by rw [stepped]; rfl
      exact ⟨.delivered free (still ▸ due) told, fun _ => ⟨_, told⟩,
        fun early => absurd due (Nat.not_le_of_lt early)⟩
    · rw [if_neg due] at stepped
      simp only [said, stepped, Option.toList_none, List.append_nil]
      exact ⟨.underway there absent yields silent, fun there => absurd there due, fun _ => silent⟩
  | delivered free due told =>
    have same : next = (state, none) := State.step_resume_free config wire free
    simp only [said, same, Option.toList_none, List.append_nil]
    exact ⟨.delivered free due told, fun _ => ⟨_, told⟩,
      fun early => absurd due (Nat.not_le_of_lt early)⟩

/-- Every event but a further call or the departure of the caller. -/
theorem step (invariant : Invariant config wire state)
    (delivers : Delivers task dueAt outcome state answers) {event : Event}
    (uncalled : ∀ call, event ≠ .call task.caller call) (loyal : event ≠ .abandon task.caller) :
    let next := state.step config wire event
    Delivers task dueAt outcome next.1 (answers ++ next.2.toList) := by
  intro next
  by_cases mine : event.caller? = some task.caller
  · cases event with
    | call other call =>
      cases mine
      exact absurd rfl (uncalled call)
    | resume other =>
      cases mine
      exact delivers.look.1
    | abandon other =>
      cases mine
      exact absurd rfl loyal
    | elapse span => cases mine
  · have change := state.step_change wire invariant.channel invariant.seated event
    refine delivers.frame (change.task?_of_other mine) (State.waiter?_step_of_other mine)
      (state.now_le_step event) ?_
    apply List.filter_eq_nil_iff.mpr
    intro answer member
    have given := State.caller?_of_answer (Option.mem_toList.mp member)
    simpa using fun same : answer.caller = task.caller => mine (same ▸ given)

/-- Any events, as long as the caller neither leaves nor makes a further call. -/
theorem run (invariant : Invariant config wire state)
    (delivers : Delivers task dueAt outcome state answers) {later : List Event}
    (uncalled : ∀ call, .call task.caller call ∉ later) (loyal : .abandon task.caller ∉ later) :
    let final := state.run config wire later
    Delivers task dueAt outcome final.1 (answers ++ final.2) := by
  induction later generalizing state answers with
  | nil =>
    intro final
    have silent : final.2 = [] := rfl
    rw [silent, List.append_nil]
    exact delivers
  | cons event rest ih =>
    intro final
    have ran : final = _ := State.run_cons state event rest
    rw [ran, ← List.append_assoc]
    apply ih (invariant.step event)
    · refine delivers.step invariant ?_ ?_
      · exact fun call same => uncalled call (same ▸ List.mem_cons_self)
      · exact fun same => loyal (same ▸ List.mem_cons_self)
    · exact fun call member => uncalled call (List.mem_cons_of_mem event member)
    · exact fun member => loyal (List.mem_cons_of_mem event member)

end Delivers

/-! ## The main result -/

namespace State

/-- **Every response brings an outcome.**  After any events, let one event send a request for a
submission, and let any response come back for it within the limit, with any status, cookies and
body.  Let more events follow, with which the caller neither leaves nor makes another call.  Once
the response is there, its caller has the outcome of the submission, at the latest when it looks; it
gets nothing else, and nothing before.

The outcome says whether the status means success, what the body reports if it is a report, and the
token that the first readable cookie with a token carries.  Each is read off its own part of the
response, whatever the others are.  In particular, a token without semicolons and outer blanks
comes back from the cookie that sets it, unless a cookie before carries one. -/
theorem outcome_of_response (config : Config) (wire : Http.Wire) (start : Nat)
    (events : List Event) (event : Event) :
    let before := ((fresh start).run config wire events).1
    ∀ (posting : Posting) (delay : Nat) (response : Http.Response),
      (before.step config wire event).1.sent = before.sent ++ [posting] →
      wire.submit before.sent.length posting.request = ⟨some delay, .arrived response⟩ →
      delay ≤ config.requestLimit →
      ∃ outcome begun, outcome.Describes response ∧
        (∀ later : List Event, (∀ call, .call posting.caller call ∉ later) →
          .abandon posting.caller ∉ later →
          let looked := before.run config wire (event :: later ++ [.resume posting.caller])
          let said := answersTo posting.caller looked.2
          (before.channel.now + delay ≤ looked.1.channel.now → ∃ ended, said =
            [⟨posting.caller, .submit posting.submission, begun, ended, .ok (.outcome outcome)⟩]) ∧
          (looked.1.channel.now < before.channel.now + delay → said = [])) ∧
        (∀ (other : Http.Outcome) (another : Http.Response), other.Describes another →
          (response.head.status = another.head.status → outcome.success = other.success) ∧
          (response.text = another.text → outcome.report = other.report) ∧
          (response.head.cookies = another.head.cookies → outcome.token = other.token)) ∧
        ∀ (token attributes : String) (front back : List (List UInt8)),
          let cookie := Text.Utf8.ofString ("authToken=" ++ token ++ "; " ++ attributes)
          response.head.cookies = front ++ cookie :: back → Http.Readable cookie →
          ';' ∉ token.toList → Text.trim token = token →
          (∀ earlier ∈ front, ∀ another, ¬ Http.Carries earlier another) →
          outcome.token = some token := by
  intro before posting delay response sent arrives inTime
  let next := before.step config wire event
  have new : Invariant config wire (fresh start) := .fresh start
  have invariant : Invariant config wire before := new.run events
  obtain ⟨task, caller, submission, begins⟩ := Delivers.of_sent invariant sent arrives inTime
  have describes : response.outcome.Describes response := response.outcome_describes
  refine ⟨response.outcome, task.begun, describes, ?_, ?_, ?_⟩
  · intro later uncalled loyal looked said
    rw [caller] at uncalled loyal
    have follows := begins.run (invariant.step event) uncalled loyal
    let after := (next.1.run config wire later).1
    obtain ⟨-, there, early⟩ := follows.look
    have ran : looked = ((after.step config wire (.resume posting.caller)).1,
        next.2.toList ++ (next.1.run config wire later).2 ++
          (after.step config wire (.resume posting.caller)).2.toList) := by
      simp only [looked, run_append, run, List.append_nil]
      rfl
    have clock : looked.1.channel.now = after.channel.now := by
      rw [ran]
      exact now_step_of_caller rfl
    rw [clock]
    simp only [said, ran, caller, submission]
    exact ⟨there, early⟩
  · intro other another also
    exact ⟨describes.success_congr also, describes.report_congr also, describes.token_congr also⟩
  · intro token attributes front back cookie cookies readable plain bare first
    exact Http.Head.token_of_set cookies plain bare readable first

/-- The response to a login sets three cookies: one that cannot be read, one that only has an
attribute with the name of the token, and the token, with an equals sign in it. -/
theorem outcome_of_response_of_refusal :
    let parameters : Agreement.Parameters := ⟨23, 5, by decide, by decide, by decide⟩
    let address : Address :=
      ⟨"http", some (.ofHost (.name "server")), .segmented ["exchange"], none, none⟩
    let config : Config :=
      ⟨⟨.withExponent parameters 6, 10⟩, address, "http://server", "/login", "/register", 9,
        .plain⟩
    let reply : Http.Response :=
      ⟨⟨200, []⟩, Text.Utf8.ofString "\x7b\"serverPublic\":\"8\"\x7d"⟩
    let front : List (List UInt8) := [Text.Utf8.ofString "authToken=1" ++ [0x80],
      Text.Utf8.ofString "session=1; authToken=2"]
    let cookie := Text.Utf8.ofString ("authToken=" ++ "a=b" ++ "; " ++ "Path=/")
    let response : Http.Response := ⟨⟨401, front ++ [cookie]⟩, [0x6E, 0xFF]⟩
    let wire : Http.Wire :=
      ⟨fun _ _ => ⟨some 0, .arrived reply⟩, fun _ _ => ⟨some 5, .arrived response⟩⟩
    let salt : Salt := ⟨[1, 2, 3, 4, 5, 6, 7, 8], rfl⟩
    let login : Submission := ⟨.login, "alice", "wonderland", salt, salt⟩
    let looked := (fresh 0).run config wire [.call 0 (.submit login), .elapse 5, .resume 0]
    ∃ outcome begun ended, answersTo 0 looked.2 =
        [⟨0, .submit login, begun, ended, .ok (.outcome outcome)⟩] ∧
      outcome.success = false ∧ outcome.report = none ∧ outcome.token = some "a=b" := by
  intro parameters address config reply front cookie response wire salt login looked
  let sent := ((fresh 0).step config wire (.call 0 (.submit login))).1.sent
  obtain ⟨posting, same⟩ : ∃ posting, sent = [posting] :=
    List.length_eq_one_iff.mp (by decide +kernel)
  have owned : posting.caller = 0 ∧ posting.submission = login := by
    have all : ∀ posting ∈ sent, posting.caller = 0 ∧ posting.submission = login := by
      decide +kernel
    exact all posting (by simp [same])
  obtain ⟨outcome, begun, describes, answers, -, recovers⟩ :=
    outcome_of_response config wire 0 [] (.call 0 (.submit login)) posting 5 response same rfl
      (by decide)
  rw [owned.1, owned.2] at answers
  obtain ⟨ended, said⟩ := (answers [.elapse 5] (by simp) (by simp)).1 (by decide +kernel)
  refine ⟨outcome, begun, ended, said, ?_, ?_, ?_⟩
  · rw [← Bool.not_eq_true, describes.success]
    decide
  · refine Option.eq_none_iff_forall_ne_some.mpr fun report read => ?_
    have unread : (Message.StatusReport.parse response.text).toOption = none := by decide +kernel
    rw [(describes.report report).mp read] at unread
    cases unread
  · refine recovers "a=b" "Path=/" front [] rfl ?_ ?_ ?_ ?_
    · unfold Http.Readable
      decide +kernel
    · decide
    · decide +kernel
    · intro earlier member another carries
      have none_read : ∀ value ∈ front, (Http.headerText value).bind Http.tokenOf = none := by
        decide +kernel
      cases (none_read earlier member).symm.trans (Http.bind_tokenOf_eq_some_iff.mpr carries)

end State

end SealedCredentials.Client
