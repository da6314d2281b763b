import BoltClient.Application

/-!
# Operations on other threads

The {lit}`Callable` and {lit}`Async` forms of an operation submit a function to the
executor of the client.  The function holds a copy of the request and calls the
operation when it is called; the outcome goes to a future or to a handler.  The
client does not look at what {lit}`Submit` returns.

The executor belongs to the SDK and is a parameter here: it may call the functions it
has been given in any order, more than once or not at all, and destroy them when it
likes, also without ever calling them.

Main results:

- Theorem {lit}`executor_run_app`: what submitted functions do to an application is
  what direct calls do, made when the executor calls them.
- Theorem {lit}`submissions_delivered`: what becomes of every submission of the four
  forms, along any run and with any executor.

Current gaps:

- An outcome is modelled up to the request that is made: what the server answers
  belongs to the SDK.
- An exception that leaves the function of an {lit}`Async` goes to the executor; what
  its threads make of it is not modelled.
-/

namespace BoltClient

open BoltClient.Library.Runs

variable {Provider Queue : Type*}

/-! ## Submissions -/

/-- Who gets the outcome: the future of a {lit}`Callable`, or the handler of an
{lit}`Async`. -/
inductive OutcomeReceiver where
  | future
  | handler
deriving DecidableEq, Repr

/-- A function submitted to the executor: the client and the request it captures,
and who gets the outcome. -/
structure Submission where
  client : Nat
  call : OperationCall
  receiver : OutcomeReceiver

/-- {lit}`BoltS3Client::GetObjectCallable`. -/
def getObjectCallable (client : Nat) (request : S3Request) : Submission :=
  ⟨client, .s3Operation .getObject request, .future⟩

/-- {lit}`BoltS3Client::GetObjectAsync`. -/
def getObjectAsync (client : Nat) (request : S3Request) : Submission :=
  ⟨client, .s3Operation .getObject request, .handler⟩

/-- {lit}`BoltS3Client::PutObjectCallable`. -/
def putObjectCallable (client : Nat) (request : S3Request) : Submission :=
  ⟨client, .s3Operation .putObject request, .future⟩

/-- {lit}`BoltS3Client::PutObjectAsync`. -/
def putObjectAsync (client : Nat) (request : S3Request) : Submission :=
  ⟨client, .s3Operation .putObject request, .handler⟩

/-- The operation a submitted function calls, with the identity of the request it
makes. -/
def Submission.operation (submission : Submission) (id : Nat) (x : SignInput) : ApplicationOp :=
  .call submission.client id submission.call x

/-! ## Results of calls -/

/-- What a call of an operation ends with: an exception of the signer, the error the
operation returns, or the request it makes. -/
abbrev CallResult := Except BoltError (Except OperationError MakeRequestCall)

/-- What a call ends with in a state of the application, if the client exists.  A
signing that does not throw reports success. -/
def Application.callResult (A : AwsSdk Provider) (app : Application Provider) (client : Nat)
    (call : OperationCall) (x : SignInput) : Option CallResult :=
  (app.clients client).map fun object =>
    match call.make A.requests (app.resolver A object) with
    | .error error => .ok (.error error)
    | .ok made =>
        ((made.signCall A.requests object.signer).perform A.externals app.process.statics
          x).result.map fun _ => .ok made

/-- The state of a {lit}`std::future`.  A promise is broken when its task is destroyed
before it is called. -/
inductive FutureState where
  | notReady
  | ready (result : Option CallResult)
  | brokenPromise

/-- The future of a task that is destroyed. -/
def FutureState.afterDestroy : FutureState → FutureState
  | .notReady => .brokenPromise
  | .ready result => .ready result
  | .brokenPromise => .brokenPromise

/-- A settled future stays as it is. -/
theorem FutureState.afterDestroy_of_ne {future : FutureState} (hne : future ≠ .notReady) :
    future.afterDestroy = future := by
  cases future with
  | notReady => exact absurd rfl hne
  | _ => rfl

/-- A call of a handler: the submission it comes from, which fixes handler and
context, the client and the request it is passed, and the outcome. -/
structure HandlerCall where
  function : Nat
  client : Nat
  call : OperationCall
  outcome : Except OperationError MakeRequestCall

/-- The handler is called with the outcome, unless the operation throws. -/
def Application.handlerCall (A : AwsSdk Provider) (app : Application Provider)
    (function client : Nat) (call : OperationCall) (x : SignInput) : Option HandlerCall :=
  (app.callResult A client call x).bind fun result =>
    match result with
    | .ok outcome => some ⟨function, client, call, outcome⟩
    | .error _ => none

/-! ## Executors -/

/-- What an executor can do with a function it holds.  Functions are named by their
place in the order of submission. -/
inductive ExecutorAct where
  | call (function : Nat)
  | destroy (function : Nat)
deriving DecidableEq, Repr

/-- The function that is called or destroyed. -/
def ExecutorAct.function : ExecutorAct → Nat
  | .call function => function
  | .destroy function => function

/-- An executor: how it takes a function and answers {lit}`Submit`, and what it does
at each moment when one of its threads gets to work. -/
structure Executor (Queue : Type*) where
  submit : Queue → Nat → Queue × Bool
  work : Queue → Nat → Queue × Option ExecutorAct

/-- An application with its executor: the functions submitted so far, those the
executor has destroyed, the futures of the tasks, and the calls of handlers. -/
structure ExecutingApplication (Provider Queue : Type*) where
  app : Application Provider
  queue : Queue
  functions : List Submission
  destroyed : List Nat
  futures : Nat → FutureState
  handled : List HandlerCall

/-- An application that has submitted nothing yet. -/
def ExecutingApplication.initial (app : Application Provider) (queue : Queue) :
    ExecutingApplication Provider Queue where
  app := app
  queue := queue
  functions := []
  destroyed := []
  futures := fun _ => .notReady
  handled := []

/-- Steps: the submissions, a moment of the executor with identity and inputs of the
request that is made in it, and everything the application does directly. -/
inductive ExecutorOp where
  | getObjectCallable (client : Nat) (request : S3Request)
  | getObjectAsync (client : Nat) (request : S3Request)
  | putObjectCallable (client : Nat) (request : S3Request)
  | putObjectAsync (client : Nat) (request : S3Request)
  | work (moment id : Nat) (x : SignInput)
  | direct (op : ApplicationOp)

/-- What a step submits. -/
def ExecutorOp.submission : ExecutorOp → Option Submission
  | .getObjectCallable client request => some (BoltClient.getObjectCallable client request)
  | .getObjectAsync client request => some (BoltClient.getObjectAsync client request)
  | .putObjectCallable client request => some (BoltClient.putObjectCallable client request)
  | .putObjectAsync client request => some (BoltClient.putObjectAsync client request)
  | _ => none

section Steps

variable (A : AwsSdk Provider) (X : Executor Queue) (s : ExecutingApplication Provider Queue)

/-- The function, as long as the executor holds it. -/
def ExecutingApplication.held (function : Nat) : Option Submission :=
  if function ∈ s.destroyed then none else s.functions[function]?

/-- {lit}`(*task)()`.  A packaged task that has been called throws and calls nothing. -/
def ExecutingApplication.callTask (function : Nat) (submission : Submission) (id : Nat)
    (x : SignInput) : ExecutingApplication Provider Queue :=
  match s.futures function with
  | .notReady =>
      { s with
        app := applicationStep A s.app (submission.operation id x)
        futures := Function.update s.futures function
          (.ready (s.app.callResult A submission.client submission.call x)) }
  | _ => s

/-- {lit}`handler(this, request, GetObject(request), context)`. -/
def ExecutingApplication.callHandler (function : Nat) (submission : Submission) (id : Nat)
    (x : SignInput) : ExecutingApplication Provider Queue :=
  { s with
    app := applicationStep A s.app (submission.operation id x)
    handled := s.handled ++
      (s.app.handlerCall A function submission.client submission.call x).toList }

/-- A function is called. -/
def ExecutingApplication.callFunction (function : Nat) (submission : Submission) (id : Nat)
    (x : SignInput) : ExecutingApplication Provider Queue :=
  match submission.receiver with
  | .future => s.callTask A function submission id x
  | .handler => s.callHandler A function submission id x

/-- A function is destroyed, and with it the packaged task of a future. -/
def ExecutingApplication.destroyFunction (function : Nat) (submission : Submission) :
    ExecutingApplication Provider Queue :=
  match submission.receiver with
  | .future =>
      { s with
        destroyed := function :: s.destroyed
        futures := Function.update s.futures function (s.futures function).afterDestroy }
  | .handler => { s with destroyed := function :: s.destroyed }

/-- The executor calls or destroys a function. -/
def ExecutingApplication.perform (act : ExecutorAct) (submission : Submission) (id : Nat)
    (x : SignInput) : ExecutingApplication Provider Queue :=
  match act with
  | .call function => s.callFunction A function submission id x
  | .destroy function => s.destroyFunction function submission

/-- A function is submitted.  The answer of {lit}`Submit` is ignored. -/
def ExecutingApplication.submit (submission : Submission) :
    ExecutingApplication Provider Queue :=
  { s with
    queue := (X.submit s.queue s.functions.length).1
    functions := s.functions ++ [submission] }

/-- What the executor does at a moment, and the function it does it to, which it must
hold. -/
def ExecutingApplication.act (moment : Nat) : Option (ExecutorAct × Submission) :=
  (X.work s.queue moment).2.bind fun act =>
    (s.held act.function).map fun submission => (act, submission)

/-- Application and executor after a step. -/
def executorStep (op : ExecutorOp) : ExecutingApplication Provider Queue :=
  match op with
  | .getObjectCallable client request => s.submit X (getObjectCallable client request)
  | .getObjectAsync client request => s.submit X (getObjectAsync client request)
  | .putObjectCallable client request => s.submit X (putObjectCallable client request)
  | .putObjectAsync client request => s.submit X (putObjectAsync client request)
  | .work moment id x =>
      let s' := { s with queue := (X.work s.queue moment).1 }
      match s.act X moment with
      | none => s'
      | some (act, submission) => s'.perform A act submission id x
  | .direct op => { s with app := applicationStep A s.app op }

end Steps

/-- Application and executor after a run. -/
abbrev executorRun (A : AwsSdk Provider) (X : Executor Queue)
    (s : ExecutingApplication Provider Queue) (ops : List ExecutorOp) :
    ExecutingApplication Provider Queue :=
  run (executorStep A X) s ops

/-! ## The run of the application -/

/-- What the application does when the executor acts on a function. -/
def ExecutingApplication.operationsOf (s : ExecutingApplication Provider Queue)
    (act : ExecutorAct) (submission : Submission) (id : Nat) (x : SignInput) :
    List ApplicationOp :=
  match act with
  | .destroy _ => []
  | .call function =>
      match submission.receiver, s.futures function with
      | .future, .ready _ => []
      | .future, .brokenPromise => []
      | _, _ => [submission.operation id x]

/-- An act of the executor, with the application as it is then, identity and inputs of
the request that may be made, and what the application does. -/
structure ExecutorEvent (Provider : Type*) where
  act : ExecutorAct
  app : Application Provider
  id : Nat
  x : SignInput
  operations : List ApplicationOp

/-- The event an act leaves. -/
def ExecutingApplication.event (s : ExecutingApplication Provider Queue) (act : ExecutorAct)
    (submission : Submission) (id : Nat) (x : SignInput) : ExecutorEvent Provider where
  act := act
  app := s.app
  id := id
  x := x
  operations := s.operationsOf act submission id x

/-- The act of a step. -/
def ExecutingApplication.events (X : Executor Queue) (s : ExecutingApplication Provider Queue) :
    ExecutorOp → List (ExecutorEvent Provider)
  | .work moment id x =>
      (s.act X moment).toList.map fun (act, submission) => s.event act submission id x
  | _ => []

/-- What the application does in a step, directly or in the act of the executor. -/
def ExecutingApplication.applicationOps (X : Executor Queue)
    (s : ExecutingApplication Provider Queue) : ExecutorOp → List ApplicationOp
  | .direct op => [op]
  | op => (s.events X op).flatMap ExecutorEvent.operations

/-- What the application does along a run. -/
def applicationOpsOf (A : AwsSdk Provider) (X : Executor Queue)
    (s : ExecutingApplication Provider Queue) (ops : List ExecutorOp) : List ApplicationOp :=
  collect (executorStep A X) (ExecutingApplication.applicationOps X) s ops

variable {A : AwsSdk Provider} {X : Executor Queue} {s : ExecutingApplication Provider Queue}

/-- All an act on a task can do: its first call, a later one, its destruction. -/
theorem perform_task (A : AwsSdk Provider) (s : ExecutingApplication Provider Queue)
    (act : ExecutorAct) {submission : Submission} (id : Nat) (x : SignInput)
    (hreceiver : submission.receiver = .future) :
    (∃ function, act = .call function ∧ s.futures function = .notReady ∧
      s.operationsOf act submission id x = [submission.operation id x] ∧
      s.perform A act submission id x =
        { s with
          app := applicationStep A s.app (submission.operation id x)
          futures := Function.update s.futures function
            (.ready (s.app.callResult A submission.client submission.call x)) }) ∨
    (∃ function, act = .call function ∧ s.futures function ≠ .notReady ∧
      s.operationsOf act submission id x = [] ∧ s.perform A act submission id x = s) ∨
    ∃ function, act = .destroy function ∧ s.operationsOf act submission id x = [] ∧
      s.perform A act submission id x =
        { s with
          destroyed := function :: s.destroyed
          futures := Function.update s.futures function (s.futures function).afterDestroy } := by
  cases act with
  | call function =>
      simp only [ExecutingApplication.perform, ExecutingApplication.callFunction, hreceiver,
        ExecutingApplication.callTask, ExecutingApplication.operationsOf]
      cases hfuture : s.futures function <;> simp [hfuture]
  | destroy function =>
      simp [ExecutingApplication.perform, ExecutingApplication.destroyFunction, hreceiver,
        ExecutingApplication.operationsOf]

/-- All an act on the function of a handler can do: a call, and its destruction. -/
theorem perform_handler (A : AwsSdk Provider) (s : ExecutingApplication Provider Queue)
    (act : ExecutorAct) {submission : Submission} (id : Nat) (x : SignInput)
    (hreceiver : submission.receiver = .handler) :
    (∃ function, act = .call function ∧
      s.operationsOf act submission id x = [submission.operation id x] ∧
      s.perform A act submission id x = s.callHandler A function submission id x) ∨
    ∃ function, act = .destroy function ∧ s.operationsOf act submission id x = [] ∧
      s.perform A act submission id x = { s with destroyed := function :: s.destroyed } := by
  cases act with
  | call function =>
      simp [ExecutingApplication.perform, ExecutingApplication.callFunction, hreceiver,
        ExecutingApplication.operationsOf]
  | destroy function =>
      simp [ExecutingApplication.perform, ExecutingApplication.destroyFunction, hreceiver,
        ExecutingApplication.operationsOf]

/-- An act on a function takes the application through its operations. -/
theorem perform_app (act : ExecutorAct) (submission : Submission) (id : Nat) (x : SignInput) :
    (s.perform A act submission id x).app =
      applicationRun A s.app (s.operationsOf act submission id x) := by
  cases hreceiver : submission.receiver with
  | future =>
      rcases perform_task A s act id x hreceiver with
        ⟨_, -, -, hoperations, h⟩ | ⟨_, -, -, hoperations, h⟩ | ⟨_, -, hoperations, h⟩ <;>
      · rw [hoperations, h]
        rfl
  | handler =>
      rcases perform_handler A s act id x hreceiver with
        ⟨_, -, hoperations, h⟩ | ⟨_, -, hoperations, h⟩ <;>
      · rw [hoperations, h]
        rfl

/-- The event of a moment in which the executor acts. -/
theorem events_work {moment : Nat} {act : ExecutorAct} {submission : Submission} (id : Nat)
    (x : SignInput) (hact : s.act X moment = some (act, submission)) :
    s.events X (.work moment id x) = [s.event act submission id x] := by
  simp only [ExecutingApplication.events, hact]
  rfl

/-- On the application, a run is a run of direct calls. -/
theorem executor_run_app (A : AwsSdk Provider) (X : Executor Queue)
    (s : ExecutingApplication Provider Queue) (ops : List ExecutorOp) :
    (executorRun A X s ops).app = applicationRun A s.app (applicationOpsOf A X s ops) := by
  refine run_simulation ExecutingApplication.app ?_ s ops
  intro s op
  cases op with
  | work moment id x =>
      simp only [executorStep, ExecutingApplication.applicationOps]
      cases hact : s.act X moment with
      | none => simp [ExecutingApplication.events, hact]
      | some performed =>
          rw [events_work id x hact, List.flatMap_singleton]
          exact perform_app performed.1 performed.2 id x
  | direct op => rfl
  | _ => rfl

/-! ## The acts on one function -/

/-- The acts of the executor along a run. -/
def executorEvents (A : AwsSdk Provider) (X : Executor Queue)
    (s : ExecutingApplication Provider Queue) (ops : List ExecutorOp) :
    List (ExecutorEvent Provider) :=
  collect (executorStep A X) (ExecutingApplication.events X) s ops

/-- The acts on one function. -/
def eventsAt (function : Nat) (events : List (ExecutorEvent Provider)) :
    List (ExecutorEvent Provider) :=
  events.filter fun event => event.act.function = function

/-- The calls of the handler of one function. -/
def ExecutingApplication.handledAt (s : ExecutingApplication Provider Queue) (function : Nat) :
    List HandlerCall :=
  s.handled.filter fun call => call.function = function

/-- The direct call an act stands for. -/
def ExecutorEvent.directCall (event : ExecutorEvent Provider) (client : Nat)
    (call : OperationCall) : List ApplicationOp :=
  match event.act with
  | .call _ => [.call client event.id call event.x]
  | .destroy _ => []

/-- The future after the acts on its task: the first one settles it. -/
def futureAfter (A : AwsSdk Provider) (client : Nat) (call : OperationCall) :
    List (ExecutorEvent Provider) → FutureState
  | [] => .notReady
  | event :: _ =>
      match event.act with
      | .call _ => .ready (event.app.callResult A client call event.x)
      | .destroy _ => .brokenPromise

/-- The handler call an act leads to. -/
def ExecutorEvent.handlerCall (A : AwsSdk Provider) (event : ExecutorEvent Provider)
    (client : Nat) (call : OperationCall) : Option HandlerCall :=
  match event.act with
  | .call function => event.app.handlerCall A function client call event.x
  | .destroy _ => none

/-- What becomes of a {lit}`Callable`.  The first act on its task calls the operation,
if it is a call, no later one does, and the future holds what a direct call ends with
at that moment. -/
structure FutureDelivers (A : AwsSdk Provider) (client : Nat) (call : OperationCall)
    (events : List (ExecutorEvent Provider)) (future : FutureState) : Prop where
  first : ∀ event ∈ events.head?, event.operations = event.directCall client call
  once : ∀ event ∈ events.tail, event.operations = []
  future_eq : future = futureAfter A client call events

/-- What becomes of an {lit}`Async`.  Every call of its function calls the operation,
and the handler gets, in order, what direct calls return at these moments. -/
structure HandlerDelivers (A : AwsSdk Provider) (client : Nat) (call : OperationCall)
    (events : List (ExecutorEvent Provider)) (handled : List HandlerCall) : Prop where
  each : ∀ event ∈ events, event.operations = event.directCall client call
  handled_eq : handled = events.filterMap fun event => event.handlerCall A client call

/-- What becomes of a submission, by who gets the outcome. -/
def Submission.Delivered (A : AwsSdk Provider) (submission : Submission)
    (events : List (ExecutorEvent Provider)) (future : FutureState)
    (handled : List HandlerCall) : Prop :=
  match submission.receiver with
  | .future => FutureDelivers A submission.client submission.call events future
  | .handler => HandlerDelivers A submission.client submission.call events handled

/-- A submission nothing has happened to is delivered. -/
theorem Submission.delivered_nil (submission : Submission) :
    submission.Delivered A [] .notReady [] := by
  unfold Submission.Delivered
  split
  · exact ⟨by simp, by simp, rfl⟩
  · exact ⟨by simp, rfl⟩

/-- A future is open until the first act on its task. -/
theorem futureAfter_notReady_iff {client : Nat} {call : OperationCall}
    {events : List (ExecutorEvent Provider)} :
    futureAfter A client call events = .notReady ↔ events = [] := by
  cases events with
  | nil => simp [futureAfter]
  | cons event rest =>
      cases hact : event.act <;> simp [futureAfter, hact]

/-- The first act on a task. -/
theorem FutureDelivers.of_first {client : Nat} {call : OperationCall}
    {event : ExecutorEvent Provider}
    (hoperations : event.operations = event.directCall client call) :
    FutureDelivers A client call [event] (futureAfter A client call [event]) where
  first := by simpa using hoperations
  once := by simp
  future_eq := rfl

/-- A later act on a task, which does not call the operation. -/
theorem FutureDelivers.concat {client : Nat} {call : OperationCall}
    {events : List (ExecutorEvent Provider)} {future : FutureState}
    {event : ExecutorEvent Provider} (h : FutureDelivers A client call events future)
    (hne : events ≠ []) (hoperations : event.operations = []) :
    FutureDelivers A client call (events ++ [event]) future := by
  cases events with
  | nil => exact absurd rfl hne
  | cons first rest =>
      refine ⟨h.first, ?_, h.future_eq⟩
      intro later hlater
      rcases List.mem_append.mp hlater with hrest | hlast
      · exact h.once later hrest
      · rw [List.mem_singleton.mp hlast, hoperations]

/-- An act on the function of a handler. -/
theorem HandlerDelivers.concat {client : Nat} {call : OperationCall}
    {events : List (ExecutorEvent Provider)} {handled : List HandlerCall}
    {event : ExecutorEvent Provider} (h : HandlerDelivers A client call events handled)
    (hoperations : event.operations = event.directCall client call) :
    HandlerDelivers A client call (events ++ [event])
      (handled ++ (event.handlerCall A client call).toList) where
  each := by
    intro member hmember
    rcases List.mem_append.mp hmember with hearlier | hlast
    · exact h.each member hearlier
    · rw [List.mem_singleton.mp hlast, hoperations]
  handled_eq := by
    rw [h.handled_eq, List.filterMap_append]
    cases hcall : event.handlerCall A client call <;> simp [hcall]

/-! ## One act -/

section Act

variable {act : ExecutorAct} {submission : Submission} {id : Nat} {x : SignInput}

/-- An act submits nothing. -/
theorem perform_functions :
    (s.perform A act submission id x).functions = s.functions := by
  cases hreceiver : submission.receiver with
  | future =>
      rcases perform_task A s act id x hreceiver with
        ⟨_, -, -, -, h⟩ | ⟨_, -, -, -, h⟩ | ⟨_, -, -, h⟩ <;> rw [h]
  | handler =>
      rcases perform_handler A s act id x hreceiver with ⟨_, -, -, h⟩ | ⟨_, -, -, h⟩ <;>
        simp only [h, ExecutingApplication.callHandler]

/-- An act leaves the futures of the other functions alone. -/
theorem perform_futures_of_ne {function : Nat} (hne : function ≠ act.function) :
    (s.perform A act submission id x).futures function = s.futures function := by
  cases hreceiver : submission.receiver with
  | future =>
      rcases perform_task A s act id x hreceiver with
        ⟨_, rfl, -, -, h⟩ | ⟨_, -, -, -, h⟩ | ⟨_, rfl, -, h⟩
      · rw [h]
        exact Function.update_of_ne hne _ _
      · rw [h]
      · rw [h]
        exact Function.update_of_ne hne _ _
  | handler =>
      rcases perform_handler A s act id x hreceiver with ⟨_, -, -, h⟩ | ⟨_, -, -, h⟩ <;>
        simp only [h, ExecutingApplication.callHandler]

/-- Only a destroyed function is gone. -/
theorem perform_destroyed {function : Nat}
    (hgone : function ∈ (s.perform A act submission id x).destroyed) :
    act = .destroy function ∨ function ∈ s.destroyed := by
  have hcons : ∀ destroyed, function ∈ destroyed :: s.destroyed →
      ExecutorAct.destroy destroyed = .destroy function ∨ function ∈ s.destroyed :=
    fun _ hmem => (List.mem_cons.mp hmem).imp_left fun heq => by rw [heq]
  cases hreceiver : submission.receiver with
  | future =>
      rcases perform_task A s act id x hreceiver with
        ⟨_, -, -, -, h⟩ | ⟨_, -, -, -, h⟩ | ⟨destroyed, rfl, -, h⟩ <;> rw [h] at hgone
      · exact Or.inr hgone
      · exact Or.inr hgone
      · exact hcons destroyed hgone
  | handler =>
      rcases perform_handler A s act id x hreceiver with
        ⟨_, -, -, h⟩ | ⟨destroyed, rfl, -, h⟩ <;> rw [h] at hgone
      · exact Or.inr hgone
      · exact hcons destroyed hgone

/-- A handler call names the function it comes from. -/
theorem ExecutorEvent.handlerCall_function {event : ExecutorEvent Provider} {client : Nat}
    {call : OperationCall} {handlerCall : HandlerCall}
    (h : event.handlerCall A client call = some handlerCall) :
    handlerCall.function = event.act.function := by
  unfold ExecutorEvent.handlerCall at h
  split at h
  next function hact =>
    rcases Option.bind_eq_some_iff.mp h with ⟨result, -, hresult⟩
    split at hresult
    · cases hresult
      rw [hact]
      rfl
    · cases hresult
  · cases h

/-- An act on a task calls no handler. -/
theorem perform_handled_future (hreceiver : submission.receiver = .future) :
    (s.perform A act submission id x).handled = s.handled := by
  rcases perform_task A s act id x hreceiver with
    ⟨_, -, -, -, h⟩ | ⟨_, -, -, -, h⟩ | ⟨_, -, -, h⟩ <;> rw [h]

/-- An act on the function of a handler calls that handler, if it calls at all. -/
theorem perform_handled_handler (hreceiver : submission.receiver = .handler) :
    (s.perform A act submission id x).handled =
      s.handled ++ ((s.event act submission id x).handlerCall A submission.client
        submission.call).toList := by
  rcases perform_handler A s act id x hreceiver with ⟨_, rfl, -, h⟩ | ⟨_, rfl, -, h⟩
  · rw [h]
    rfl
  · rw [h]
    exact (List.append_nil s.handled).symm

/-- An act calls no handler of the other functions. -/
theorem perform_handledAt_of_ne {function : Nat} (hne : function ≠ act.function) :
    (s.perform A act submission id x).handledAt function = s.handledAt function := by
  unfold ExecutingApplication.handledAt
  cases hreceiver : submission.receiver with
  | future => rw [perform_handled_future hreceiver]
  | handler =>
      rw [perform_handled_handler hreceiver, List.filter_append, List.append_right_eq_self,
        List.filter_eq_nil_iff]
      intro handlerCall hmem
      have hfunction : handlerCall.function = act.function :=
        ExecutorEvent.handlerCall_function (Option.mem_toList.mp hmem)
      simpa [hfunction] using Ne.symm hne

/-- An act on the function of a handler adds to the calls of that handler. -/
theorem perform_handledAt_handler (hreceiver : submission.receiver = .handler) :
    (s.perform A act submission id x).handledAt act.function =
      s.handledAt act.function ++ ((s.event act submission id x).handlerCall A
        submission.client submission.call).toList := by
  unfold ExecutingApplication.handledAt
  rw [perform_handled_handler hreceiver, List.filter_append, List.append_cancel_left_eq,
    List.filter_eq_self]
  intro handlerCall hmem
  exact decide_eq_true (ExecutorEvent.handlerCall_function (Option.mem_toList.mp hmem))

/-- The first act on a task calls the operation or breaks the promise. -/
theorem perform_first (id : Nat) (x : SignInput) (hreceiver : submission.receiver = .future)
    (hopen : s.futures act.function = .notReady) :
    (s.event act submission id x).operations =
        (s.event act submission id x).directCall submission.client submission.call ∧
      (s.perform A act submission id x).futures act.function =
        futureAfter A submission.client submission.call [s.event act submission id x] := by
  rcases perform_task A s act id x hreceiver with
    ⟨_, rfl, -, hoperations, h⟩ | ⟨_, rfl, hsettled, -⟩ | ⟨_, rfl, hoperations, h⟩
  · refine ⟨hoperations, ?_⟩
    rw [h]
    exact Function.update_self ..
  · exact absurd hopen hsettled
  · refine ⟨hoperations, ?_⟩
    rw [h]
    exact (Function.update_self ..).trans (congrArg FutureState.afterDestroy hopen)

/-- A later act on a task does nothing. -/
theorem perform_later (id : Nat) (x : SignInput) (hreceiver : submission.receiver = .future)
    (hsettled : s.futures act.function ≠ .notReady) :
    (s.event act submission id x).operations = [] ∧
      (s.perform A act submission id x).futures act.function = s.futures act.function := by
  rcases perform_task A s act id x hreceiver with
    ⟨_, rfl, hopen, -⟩ | ⟨_, rfl, -, hoperations, h⟩ | ⟨_, rfl, hoperations, h⟩
  · exact absurd hopen hsettled
  · exact ⟨hoperations, by rw [h]⟩
  · refine ⟨hoperations, ?_⟩
    rw [h]
    exact (Function.update_self ..).trans (FutureState.afterDestroy_of_ne hsettled)

/-- An act keeps the submission of its function delivered. -/
theorem perform_delivered {events : List (ExecutorEvent Provider)}
    (h : submission.Delivered A events (s.futures act.function) (s.handledAt act.function)) :
    submission.Delivered A (events ++ [s.event act submission id x])
      ((s.perform A act submission id x).futures act.function)
      ((s.perform A act submission id x).handledAt act.function) := by
  unfold Submission.Delivered at h ⊢
  cases hreceiver : submission.receiver with
  | future =>
      simp only [hreceiver] at h ⊢
      by_cases hfuture : s.futures act.function = .notReady
      · have hnil : events = [] := futureAfter_notReady_iff.mp (h.future_eq ▸ hfuture)
        rcases perform_first (A := A) id x hreceiver hfuture with
          ⟨hoperations, hafter⟩
        rw [hnil, hafter]
        exact FutureDelivers.of_first hoperations
      · have hne : events ≠ [] := by
          intro hnil
          rw [h.future_eq, futureAfter_notReady_iff] at hfuture
          exact hfuture hnil
        rcases perform_later (A := A) id x hreceiver hfuture with
          ⟨hoperations, hafter⟩
        rw [hafter]
        exact h.concat hne hoperations
  | handler =>
      simp only [hreceiver] at h ⊢
      rw [perform_handledAt_handler hreceiver]
      refine h.concat ?_
      rcases perform_handler A s act id x hreceiver with
        ⟨_, rfl, hoperations, -⟩ | ⟨_, rfl, hoperations, -⟩
      · exact hoperations
      · exact hoperations

end Act

/-! ## What becomes of the submissions -/

/-- Every submission so far is delivered, nothing has happened to the functions to
come, and functions are gone only if the executor has destroyed them. -/
structure Settled (A : AwsSdk Provider) (events : List (ExecutorEvent Provider))
    (s : ExecutingApplication Provider Queue) : Prop where
  unmade : ∀ function, s.functions.length ≤ function →
    eventsAt function events = [] ∧ s.futures function = .notReady ∧ s.handledAt function = []
  delivered : ∀ function (submission : Submission), s.functions[function]? = some submission →
    submission.Delivered A (eventsAt function events) (s.futures function)
      (s.handledAt function)
  destroyed : ∀ function ∈ s.destroyed, ∃ event ∈ events, event.act = .destroy function

/-- A submission settles the next function. -/
theorem Settled.submit {events : List (ExecutorEvent Provider)} (h : Settled A events s)
    (submission : Submission) : Settled A events (s.submit X submission) where
  unmade := by
    intro function hlength
    simp only [ExecutingApplication.submit, List.length_append] at hlength
    exact h.unmade function (by omega)
  delivered := by
    intro function submitted hsubmitted
    simp only [ExecutingApplication.submit] at hsubmitted
    rcases Nat.lt_or_ge function s.functions.length with hold | hnew
    · rw [List.getElem?_append_left hold] at hsubmitted
      exact h.delivered function submitted hsubmitted
    · rcases h.unmade function hnew with ⟨hevents, hfuture, hhandled⟩
      have hnothing := submitted.delivered_nil (A := A)
      rwa [← hevents, ← hfuture, ← hhandled] at hnothing
  destroyed := h.destroyed

/-- The acts on one function after one more act. -/
theorem eventsAt_concat (function : Nat) (events : List (ExecutorEvent Provider))
    (s : ExecutingApplication Provider Queue) (act : ExecutorAct) (submission : Submission)
    (id : Nat) (x : SignInput) :
    eventsAt function (events ++ [s.event act submission id x]) =
      if act.function = function then eventsAt function events ++ [s.event act submission id x]
      else eventsAt function events := by
  have hact : (s.event act submission id x).act = act := rfl
  unfold eventsAt
  by_cases heq : act.function = function <;> simp [hact, heq]

/-- An act on a submitted function settles that function. -/
theorem Settled.perform {events : List (ExecutorEvent Provider)} (h : Settled A events s)
    {act : ExecutorAct} {submission : Submission} (id : Nat) (x : SignInput)
    (hsubmitted : s.functions[act.function]? = some submission) :
    Settled A (events ++ [s.event act submission id x]) (s.perform A act submission id x) where
  unmade := by
    intro function hlength
    rw [perform_functions] at hlength
    have hne : function ≠ act.function := by
      have hlt := (List.getElem?_eq_some_iff.mp hsubmitted).1
      omega
    rw [eventsAt_concat, if_neg (Ne.symm hne), perform_futures_of_ne hne,
      perform_handledAt_of_ne hne]
    exact h.unmade function hlength
  delivered := by
    intro function submitted hfunction
    rw [perform_functions] at hfunction
    rw [eventsAt_concat]
    by_cases heq : function = act.function
    · subst heq
      obtain rfl : submission = submitted := by
        rw [hsubmitted] at hfunction
        exact Option.some.inj hfunction
      rw [if_pos rfl]
      exact perform_delivered (h.delivered _ _ hfunction)
    · rw [if_neg (Ne.symm heq), perform_futures_of_ne heq, perform_handledAt_of_ne heq]
      exact h.delivered function submitted hfunction
  destroyed := by
    intro function hgone
    rcases perform_destroyed hgone with rfl | hearlier
    · exact ⟨s.event (.destroy function) submission id x, by simp, rfl⟩
    · rcases h.destroyed function hearlier with ⟨event, hmem, hact⟩
      exact ⟨event, List.mem_append_left _ hmem, hact⟩

/-- What happens to queue and application settles nothing. -/
theorem Settled.of_eq {events : List (ExecutorEvent Provider)}
    {s' : ExecutingApplication Provider Queue} (h : Settled A events s)
    (hfunctions : s'.functions = s.functions) (hfutures : s'.futures = s.futures)
    (hhandled : s'.handled = s.handled) (hdestroyed : s'.destroyed = s.destroyed) :
    Settled A events s' := by
  refine ⟨?_, ?_, ?_⟩
  · unfold ExecutingApplication.handledAt
    rw [hfunctions, hfutures, hhandled]
    exact h.unmade
  · unfold ExecutingApplication.handledAt
    rw [hfunctions, hfutures, hhandled]
    exact h.delivered
  · rw [hdestroyed]
    exact h.destroyed

/-- The executor acts on functions that have been submitted. -/
theorem act_submitted {moment : Nat} {act : ExecutorAct} {submission : Submission}
    (hact : s.act X moment = some (act, submission)) :
    s.functions[act.function]? = some submission := by
  rcases Option.bind_eq_some_iff.mp hact with ⟨performed, -, hheld⟩
  rcases Option.map_eq_some_iff.mp hheld with ⟨held, hheld, heq⟩
  cases heq
  unfold ExecutingApplication.held at hheld
  split at hheld
  · cases hheld
  · exact hheld

/-- Every step settles what it does. -/
theorem executorStep_settled {events : List (ExecutorEvent Provider)}
    (h : Settled A events s) (op : ExecutorOp) :
    Settled A (events ++ s.events X op) (executorStep A X s op) := by
  cases op with
  | work moment id x =>
      simp only [executorStep, ExecutingApplication.events]
      cases hact : s.act X moment with
      | none =>
          rw [Option.toList_none, List.map_nil, List.append_nil]
          exact h.of_eq rfl rfl rfl rfl
      | some performed =>
          rcases performed with ⟨act, submission⟩
          have hqueue : Settled A events { s with queue := (X.work s.queue moment).1 } :=
            h.of_eq rfl rfl rfl rfl
          have hsubmitted := act_submitted hact
          exact hqueue.perform id x hsubmitted
  | direct op =>
      simp only [ExecutingApplication.events, List.append_nil]
      exact h.of_eq rfl rfl rfl rfl
  | _ =>
      simp only [ExecutingApplication.events, List.append_nil]
      exact h.submit _

/-- In every state a run from the start reaches, every submission is delivered. -/
theorem executor_settled (A : AwsSdk Provider) (X : Executor Queue) (app : Application Provider)
    (queue : Queue) (ops : List ExecutorOp) :
    Settled A (executorEvents A X (.initial app queue) ops)
      (executorRun A X (.initial app queue) ops) := by
  refine run_history_invariant (Settled A) ?_ ?_
  · refine ⟨fun _ _ => ⟨rfl, rfl, rfl⟩, ?_, ?_⟩
    · intro function submission hsubmitted
      cases hsubmitted
    · intro function hgone
      cases hgone
  · intro before op _ _ hbefore
    exact executorStep_settled hbefore op

/-- A step never takes back a submission. -/
theorem executorStep_functions (op : ExecutorOp) :
    (executorStep A X s op).functions = s.functions ++ op.submission.toList := by
  cases op with
  | work moment id x =>
      simp only [executorStep, ExecutorOp.submission, Option.toList_none, List.append_nil]
      cases s.act X moment with
      | none => rfl
      | some performed => exact perform_functions
  | direct op => simp [executorStep, ExecutorOp.submission]
  | _ => rfl

/-- The submissions of a run stay at their places. -/
theorem executor_run_functions (ops : List ExecutorOp) :
    (executorRun A X s ops).functions = s.functions ++ ops.filterMap ExecutorOp.submission := by
  induction ops using List.reverseRecOn with
  | nil => simp
  | append_singleton ops op ih =>
      simp only [executorRun, run_concat] at ih ⊢
      rw [executorStep_functions, ih, List.filterMap_append, List.append_assoc]
      cases hsubmission : op.submission <;> simp [hsubmission]

section FromStart

variable {app : Application Provider} {queue : Queue}

/-- What a step of a run submits is found at the place of its number. -/
theorem executor_run_submission {before after : List ExecutorOp} (op : ExecutorOp)
    {submission : Submission} (hsubmission : op.submission = some submission) :
    (executorRun A X (.initial app queue) (before ++ op :: after)).functions[
      (before.filterMap ExecutorOp.submission).length]? = some submission := by
  rw [executor_run_functions, ExecutingApplication.initial, List.nil_append,
    List.filterMap_append, List.getElem?_append_right (Nat.le_refl _)]
  simp [hsubmission]

/-- An act of the executor on a function that has been submitted and not been destroyed
takes place. -/
theorem executor_acts {before : List ExecutorOp} {moment id : Nat} {x : SignInput}
    {act : ExecutorAct}
    (hwork : (X.work (executorRun A X (.initial app queue) before).queue moment).2 = some act)
    (hsubmitted : act.function < (before.filterMap ExecutorOp.submission).length)
    (hheld : ∀ event ∈ executorEvents A X (.initial app queue) before,
      event.act ≠ .destroy act.function) :
    ∃ operations, executorEvents A X (.initial app queue) (before ++ [.work moment id x]) =
      executorEvents A X (.initial app queue) before ++
        [⟨act, (executorRun A X (.initial app queue) before).app, id, x, operations⟩] := by
  have hsettled := executor_settled A X app queue before
  obtain ⟨submission, hfunction⟩ : ∃ submission,
      (executorRun A X (.initial app queue) before).functions[act.function]? =
        some submission := by
    rw [executor_run_functions]
    exact ⟨_, List.getElem?_eq_getElem hsubmitted⟩
  have hnot : act.function ∉ (executorRun A X (.initial app queue) before).destroyed := by
    intro hgone
    rcases hsettled.destroyed _ hgone with ⟨event, hmem, hact⟩
    exact hheld event hmem hact
  have hact : (executorRun A X (.initial app queue) before).act X moment =
      some (act, submission) := by
    simp [ExecutingApplication.act, ExecutingApplication.held, hwork, hnot, hfunction]
  exact ⟨_, (collect_concat _ _ _ _ _).trans (congrArg _ (events_work id x hact))⟩

end FromStart

/-- What becomes of the submissions of a run.  They are handed to the executor, and what
it does with them takes place.  On the application the run is one of direct calls; a
{lit}`Callable` delivers what its first call ends with to its future, and an
{lit}`Async` what each of its calls returns to its handler. -/
structure SubmissionsDelivered (A : AwsSdk Provider) (X : Executor Queue)
    (s : ExecutingApplication Provider Queue) (ops : List ExecutorOp) : Prop where
  submitted : ∀ before op after, ops = before ++ op :: after → op.submission.isSome →
    (executorRun A X s (before ++ [op])).queue =
      (X.submit (executorRun A X s before).queue
        (before.filterMap ExecutorOp.submission).length).1
  acts : ∀ before moment id x after act, ops = before ++ .work moment id x :: after →
    (X.work (executorRun A X s before).queue moment).2 = some act →
    act.function < (before.filterMap ExecutorOp.submission).length →
    (∀ event ∈ executorEvents A X s before, event.act ≠ .destroy act.function) →
    ∃ operations, executorEvents A X s (before ++ [.work moment id x]) =
      executorEvents A X s before ++
        [⟨act, (executorRun A X s before).app, id, x, operations⟩]
  app : (executorRun A X s ops).app = applicationRun A s.app (applicationOpsOf A X s ops)
  getObjectCallable : ∀ before client request after,
    ops = before ++ .getObjectCallable client request :: after →
    let function := (before.filterMap ExecutorOp.submission).length
    FutureDelivers A client (.s3Operation .getObject request)
      (eventsAt function (executorEvents A X s ops)) ((executorRun A X s ops).futures function)
  getObjectAsync : ∀ before client request after,
    ops = before ++ .getObjectAsync client request :: after →
    let function := (before.filterMap ExecutorOp.submission).length
    HandlerDelivers A client (.s3Operation .getObject request)
      (eventsAt function (executorEvents A X s ops))
      ((executorRun A X s ops).handledAt function)
  putObjectCallable : ∀ before client request after,
    ops = before ++ .putObjectCallable client request :: after →
    let function := (before.filterMap ExecutorOp.submission).length
    FutureDelivers A client (.s3Operation .putObject request)
      (eventsAt function (executorEvents A X s ops)) ((executorRun A X s ops).futures function)
  putObjectAsync : ∀ before client request after,
    ops = before ++ .putObjectAsync client request :: after →
    let function := (before.filterMap ExecutorOp.submission).length
    HandlerDelivers A client (.s3Operation .putObject request)
      (eventsAt function (executorEvents A X s ops))
      ((executorRun A X s ops).handledAt function)

/-- Whatever the executor does with the functions it is given, along every run of an
application every submission is delivered. -/
theorem submissions_delivered (A : AwsSdk Provider) (X : Executor Queue)
    (app : Application Provider) (queue : Queue) (ops : List ExecutorOp) :
    SubmissionsDelivered A X (.initial app queue) ops where
  submitted := by
    intro before op after _ hsubmission
    have hplaces := executor_run_functions (A := A) (X := X) (s := .initial app queue) before
    rw [ExecutingApplication.initial, List.nil_append] at hplaces
    rw [← hplaces]
    simp only [executorRun, run_concat]
    cases op with
    | work => cases hsubmission
    | direct => cases hsubmission
    | _ => rfl
  acts := fun _ _ _ _ _ _ _ hwork hsubmitted hheld => executor_acts hwork hsubmitted hheld
  app := executor_run_app A X (.initial app queue) ops
  getObjectCallable := by
    rintro before client request after rfl
    exact (executor_settled A X app queue _).delivered _ _
      (executor_run_submission (.getObjectCallable client request) rfl)
  getObjectAsync := by
    rintro before client request after rfl
    exact (executor_settled A X app queue _).delivered _ _
      (executor_run_submission (.getObjectAsync client request) rfl)
  putObjectCallable := by
    rintro before client request after rfl
    exact (executor_settled A X app queue _).delivered _ _
      (executor_run_submission (.putObjectCallable client request) rfl)
  putObjectAsync := by
    rintro before client request after rfl
    exact (executor_settled A X app queue _).delivered _ _
      (executor_run_submission (.putObjectAsync client request) rfl)

/-! ## A sample executor -/

/-- An executor with one thread that calls the functions in the order of submission and
destroys each of them after its call. -/
def firstInFirstOut : Executor (List ExecutorAct) where
  submit := fun queue function => (queue ++ [.call function, .destroy function], true)
  work := fun queue _ => (queue.tail, queue.head?)

/-- A handler is called once with the outcome of its operation. -/
example :
    let x := sampleSignInput 1000 (sampleResponse 0) sampleV4
    (executorRun sampleAwsSdk firstInFirstOut
      (.initial (Application.initial sampleExternals sampleEnv 0 sampleProviders) [])
      [.direct sampleConstruct, .getObjectAsync 0 (sampleObjectRequest "bucket" "object"),
        .work 0 1 x, .work 1 2 x, .work 2 3 x]).handled.map HandlerCall.function = [0] := by
  decide +kernel

end BoltClient
