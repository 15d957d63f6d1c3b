import SealedCredentials.Channel.Basic

/-!
# Tasks in virtual time

Tasks share a channel.  Each is a list of actions that it carries out one after the other.
Time stands still while a task can go on: at every instant all tasks are polled once, in the
order of their numbers, and then time passes to the next instant at which a sleep ends, an
attempt that a task waits for comes due, or a task's patience runs out.  Every such instant
finishes an action, so the number of actions bounds the number of instants.
-/

set_option autoImplicit false

namespace SealedCredentials.Channel

/-- What a task can do. -/
inductive Action where
  | call (call : Call)
  /-- As `call`, but the call is abandoned if it has not ended after a span. -/
  | callFor (span : Nat) (call : Call)
  | sleep (span : Nat)

/-- What came of an action. -/
inductive Report where
  | answered (result : Result)
  | abandoned
  | slept

/-- What holds a task up. -/
inductive Hold where
  | free
  | asleep (wakeAt : Nat)
  /-- The task waits for an attempt, perhaps not beyond an instant. -/
  | waiting (deadline : Option Nat)

/-- A task: what holds it up, what it has still to do, and what came of the rest. -/
structure Task where
  hold : Hold
  todo : List Action
  reports : List Report

namespace Task

/-- A task that has not begun. -/
def ofActions (actions : List Action) : Task := ⟨.free, actions, []⟩

/-- The task with an earlier report in front of its reports. -/
def after (task : Task) (report : Report) : Task :=
  { task with reports := report :: task.reports }

/-- Actions carried out as far as they go at this instant. -/
def proceed (config : Config) (transport : Transport) (caller : Nat) :
    List Action → State → State × Task
  | [], state => (state, ⟨.free, [], []⟩)
  | .sleep span :: later, state =>
    if span = 0 then
      let (state, task) := proceed config transport caller later state
      (state, task.after .slept)
    else (state, ⟨.asleep (state.now + span), later, []⟩)
  | .call call :: later, state =>
    match state.step config transport (.call caller call) with
    | (state, some answer) =>
      let (state, task) := proceed config transport caller later state
      (state, task.after (.answered answer.result))
    | (state, none) => (state, ⟨.waiting none, later, []⟩)
  | .callFor span call :: later, state =>
    match state.step config transport (.call caller call) with
    | (state, some answer) =>
      let (state, task) := proceed config transport caller later state
      (state, task.after (.answered answer.result))
    | (state, none) =>
      if span = 0 then
        let (state, _) := state.step config transport (.abandon caller)
        let (state, task) := proceed config transport caller later state
        (state, task.after .abandoned)
      else (state, ⟨.waiting (some (state.now + span)), later, []⟩)

/-- The task after the action that held it up: it goes on with the next ones. -/
def goOn (task : Task) (config : Config) (transport : Transport) (caller : Nat)
    (report : Option Report) (state : State) : State × Task :=
  let (state, rest) := proceed config transport caller task.todo state
  (state, { rest with reports := task.reports ++ report.toList ++ rest.reports })

/-- A poll: the task goes on if what holds it up is over.  A result that is there counts, even
if the task's patience runs out at the same instant. -/
def poll (task : Task) (config : Config) (transport : Transport) (caller : Nat)
    (state : State) : State × Task :=
  match task.hold with
  | .free => task.goOn config transport caller none state
  | .asleep wakeAt =>
    if wakeAt ≤ state.now then task.goOn config transport caller (some .slept) state
    else (state, task)
  | .waiting deadline =>
    match state.step config transport (.resume caller) with
    | (state, some answer) =>
      task.goOn config transport caller (some (.answered answer.result)) state
    | (state, none) =>
      if deadline.any (· ≤ state.now) then
        let (state, _) := state.step config transport (.abandon caller)
        task.goOn config transport caller (some .abandoned) state
      else (state, task)

/-- The next instant at which a poll may find the task free to go on. -/
def nextInstant (task : Task) (config : Config) (caller : Nat) (state : State) : Option Nat :=
  match task.hold with
  | .free => none
  | .asleep wakeAt => some wakeAt
  | .waiting deadline =>
    match state.dueAt? config caller, deadline with
    | some due, some deadline => some (min due deadline)
    | some due, none => some due
    | none, deadline => deadline

end Task

namespace Schedule

/-- All tasks polled once, in the order of their numbers. -/
def pollAll (config : Config) (transport : Transport) :
    Nat → List Task → State → State × List Task
  | _, [], state => (state, [])
  | caller, task :: later, state =>
    let (state, task) := task.poll config transport caller state
    let (state, later) := pollAll config transport (caller + 1) later state
    (state, task :: later)

/-- The earliest of the tasks' next instants. -/
def nextInstant (config : Config) (tasks : List Task) (state : State) : Option Nat :=
  (tasks.zipIdx.filterMap fun (task, caller) => task.nextInstant config caller state).min?

/-- The tasks through at most `instants` instants. -/
def advance (config : Config) (transport : Transport) :
    Nat → List Task → State → State × List Task
  | 0, tasks, state => (state, tasks)
  | instants + 1, tasks, state =>
    let (state, tasks) := pollAll config transport 0 tasks state
    match nextInstant config tasks state with
    | none => (state, tasks)
    | some instant =>
      let (state, _) := state.step config transport (.elapse (instant - state.now))
      advance config transport instants tasks state

/-- Tasks from beginning to end: the state after them, and what came of each task's actions. -/
def run (config : Config) (transport : Transport) (tasks : List (List Action))
    (state : State) : State × List (List Report) :=
  let actions := tasks.flatten.length
  let (state, ended) :=
    advance config transport (actions + 1) (tasks.map Task.ofActions) state
  (state, ended.map Task.reports)

end Schedule

end SealedCredentials.Channel
