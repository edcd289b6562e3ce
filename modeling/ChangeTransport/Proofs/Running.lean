import ChangeTransport.Step
import ChangeTransport.Proofs.Checks

/-!
# Running steps

What a step does to the world in which it is run, with one lemma for every way to build a step.

On a line with a script the answer to a request is the one whose place in the script is the number
of the requests sent before.  A script therefore gives, for a list of things that are asked about
one after the other, a list of readings, and what a step does is told by that list.
-/

namespace ChangeTransport

theorem given?_eq_some_iff {text : Option String} {given : String} :
    given? text = some given ↔ text = some given ∧ given ≠ "" := by
  simp [given?, Option.filter_eq_some_iff]

theorem given?_eq_none_iff {text : Option String} :
    given? text = none ↔ text = none ∨ text = some "" := by
  cases text with
  | none => simp [given?]
  | some text => simp [given?, Option.filter_eq_none_iff]

/-! ## Answers -/

/-- The reply in the answer to a request, if it says that the request has been carried out. -/
def Http.Answer.accept (url : String) : Http.Answer → Except Error Http.Reply
  | .reply received => (requireSuccess received url).map fun _ => received
  | .failure reason => .error (.transport reason)

/-- The reply in the answer to a request, whatever it says. -/
def Http.Answer.received : Http.Answer → Except Error Http.Reply
  | .reply received => .ok received
  | .failure reason => .error (.transport reason)

/-- What is read out of the answer to a request. -/
def Http.Answer.read {α : Type} (url : String) (reading : Http.Reply → Except Error α)
    (answer : Http.Answer) : Except Error α := do
  reading (← answer.accept url)

/-- The answer of success that has the given text. -/
def Http.Answer.ofText (text : String) : Http.Answer :=
  .reply ⟨200, [], Text.Utf8.ofText text⟩

theorem Http.Answer.read_of_success {α : Type}
    {url : String} {reading : Http.Reply → Except Error α} {received : Http.Reply}
    (success : received.isSuccess = true) :
    (Http.Answer.reply received).read url reading = reading received := by
  simp [read, accept, requireSuccess, success, bind, Except.bind, Except.map]

theorem Http.Answer.read_of_failure {α : Type}
    {url : String} {reading : Http.Reply → Except Error α} {received : Http.Reply}
    (failure : received.isSuccess = false) :
    (Http.Answer.reply received).read url reading = .error (.http received.status url) := by
  simp [read, accept, requireSuccess, failure, bind, Except.bind, Except.map]

/-- A reading is a success exactly if a reply of success has been read. -/
theorem Http.Answer.read_eq_ok_iff {α : Type}
    {url : String} {reading : Http.Reply → Except Error α}
    {answer : Http.Answer} {value : α} :
    answer.read url reading = .ok value ↔
      ∃ received, answer = .reply received ∧ received.isSuccess = true ∧
        reading received = .ok value := by
  cases answer with
  | failure reason =>
      simp [read, accept, bind, Except.bind]
  | reply received =>
      cases success : received.isSuccess <;>
        simp [read, accept, requireSuccess, success, bind, Except.bind, Except.map]

/-- A reading fails for want of a reply, by its status, or by what reads it. -/
theorem Http.Answer.exists_read_eq_error_iff {α : Type}
    {url : String} {reading : Http.Reply → Except Error α} {answer : Http.Answer} :
    (∃ error, answer.read url reading = .error error) ↔
      (∃ reason, answer = .failure reason) ∨
        ∃ received, answer = .reply received ∧
          (received.isSuccess = false ∨ ∃ error, reading received = .error error) := by
  cases answer with
  | failure reason => simp [read, accept, bind, Except.bind]
  | reply received =>
      cases success : received.isSuccess <;>
        simp [read, accept, requireSuccess, success, bind, Except.bind, Except.map]

/-! ## Lines with a script -/

/-- The answer that a script holds for a request, by the number of the requests before it. -/
def scriptedAnswer (answers : List Http.Answer) (place : Nat) (request : Http.Request) :
    Http.Answer :=
  (answers[place]?).getD (.failure ("no scripted response left for " ++ request.url))

theorem scriptedAnswer_of_getElem?
    {answers : List Http.Answer} {place : Nat} {answer : Http.Answer}
    (known : answers[place]? = some answer) (request : Http.Request) :
    scriptedAnswer answers place request = answer := by
  rw [scriptedAnswer, known, Option.getD_some]

/-- A line with a script on which the given requests have been sent. -/
def Line.scripted (answers : List Http.Answer) (sent : List Http.Request) : Line :=
  ⟨.script (answers.drop sent.length), sent⟩

theorem Line.ofScript_eq_scripted (answers : List Http.Answer) :
    Line.ofScript answers = .scripted answers [] := rfl

@[simp]
theorem Line.sent_scripted (answers : List Http.Answer) (sent : List Http.Request) :
    (Line.scripted answers sent).sent = sent := rfl

@[simp]
theorem Line.entries_scripted
    (answers : List Http.Answer) (sent : List Http.Request) (request : Http.Request) :
    (Line.scripted answers sent).entries request = [] := rfl

/-- A request on a line with a script takes the answer at its place. -/
@[simp]
theorem Line.exchange_scripted
    (answers : List Http.Answer) (sent : List Http.Request) (request : Http.Request) :
    (Line.scripted answers sent).exchange request =
      (scriptedAnswer answers sent.length request, .scripted answers (sent ++ [request])) := by
  have rest : answers.drop (sent ++ [request]).length = (answers.drop sent.length).drop 1 := by
    simp [List.drop_drop]
  simp only [Line.scripted, rest]
  cases left : answers.drop sent.length with
  | nil =>
      have none : answers[sent.length]? = none := by
        simpa [List.drop_eq_nil_iff] using left
      simp [Line.exchange, scriptedAnswer, none]
  | cons answer others =>
      have some : answers[sent.length]? = some answer := by
        rw [← List.head?_drop, left, List.head?_cons]
      simp [Line.exchange, scriptedAnswer, some]

/-- A request is sent once, whatever answers on the line. -/
@[simp]
theorem Line.sent_exchange (line : Line) (request : Http.Request) :
    (line.exchange request).2.sent = line.sent ++ [request] := by
  rcases line with ⟨(_ | ⟨answer, answers⟩) | answer, sent⟩ <;> rfl

/-! ## What leaves the lines alone -/

namespace Observer

/-- The events that an observer keeps, besides those that it has kept before. -/
def keep : Observer → (kept events : List Event) → List Event
  | recording, kept, events => kept ++ events
  | ignoring, kept, _ => kept
  | logging, kept, _ => kept

@[simp]
theorem keep_nil (observer : Observer) (kept : List Event) : observer.keep kept [] = kept := by
  cases observer <;> simp [keep]

@[simp]
theorem keep_keep (observer : Observer) (kept events others : List Event) :
    observer.keep (observer.keep kept events) others = observer.keep kept (events ++ others) := by
  cases observer <;> simp [keep]

end Observer

namespace World

variable (world : World)

@[simp]
theorem logAll_nil : world.logAll [] = world := by
  simp [logAll]

/-- Reporting changes nothing but the log and the events that are kept. -/
theorem exists_report_eq (event : Event) :
    ∃ log, world.report event =
      { world with log, events := world.observer.keep world.events [event] } := by
  rcases world with ⟨system, provider, observer, events, log, orders⟩
  cases observer with
  | recording => exact ⟨log, rfl⟩
  | ignoring => exact ⟨log, rfl⟩
  | logging => exact ⟨_, rfl⟩

theorem exists_report (event : Event) :
    ∃ log events, world.report event = { world with log, events } := by
  rcases world.exists_report_eq event with ⟨log, reported⟩
  exact ⟨log, _, reported⟩

/-- What events that are reported one after the other leave behind. -/
def reportAll (events : List Event) : World := events.foldl report world

@[simp]
theorem reportAll_nil : world.reportAll [] = world := rfl

@[simp]
theorem reportAll_cons (event : Event) (events : List Event) :
    world.reportAll (event :: events) = (world.report event).reportAll events := rfl

theorem reportAll_append (events others : List Event) :
    world.reportAll (events ++ others) = (world.reportAll events).reportAll others := by
  simp [reportAll]

theorem exists_reportAll (events : List Event) :
    ∃ log kept, world.reportAll events = { world with log, events := kept } := by
  induction events generalizing world with
  | nil => exact ⟨world.log, world.events, rfl⟩
  | cons event rest induction =>
      rcases world.exists_report event with ⟨log, kept, reported⟩
      rw [reportAll_cons, reported]
      exact induction { world with log, events := kept }

/-- An observer that keeps the events has them in their order. -/
theorem reportAll_recording (recording : world.observer = .recording) (events : List Event) :
    world.reportAll events = { world with events := world.events ++ events } := by
  induction events generalizing world with
  | nil => simp
  | cons event rest induction =>
      have reported : world.report event = { world with events := world.events ++ [event] } := by
        rw [report, recording]
      have others := induction { world with events := world.events ++ [event] } recording
      rw [reportAll_cons, reported, others, List.append_assoc, List.singleton_append]

@[simp]
theorem system_report (event : Event) : (world.report event).system = world.system := by
  rcases world.exists_report event with ⟨log, events, reported⟩
  rw [reported]

@[simp]
theorem system_reportAll (events : List Event) :
    (world.reportAll events).system = world.system := by
  rcases world.exists_reportAll events with ⟨log, kept, reported⟩
  rw [reported]

/-- What is reported does not depend on the line to the system. -/
theorem report_system (line : Line) (event : Event) :
    { world with system := line }.report event =
      { world.report event with system := line } := by
  rcases world with ⟨system, provider, observer, events, log, orders⟩
  cases observer <;> rfl

theorem reportAll_system (line : Line) (events : List Event) :
    { world with system := line }.reportAll events =
      { world.reportAll events with system := line } := by
  induction events generalizing world with
  | nil => rfl
  | cons event rest induction =>
      rw [reportAll_cons, report_system, induction, reportAll_cons]

variable {answers : List Http.Answer} {sent : List Http.Request}

/-- A request on a line with a script changes nothing but that line. -/
theorem exchange_scripted
    (peer : Peer) (scripted : world.line peer = .scripted answers sent)
    (request : Http.Request) :
    world.exchange peer request =
      (scriptedAnswer answers sent.length request,
        world.setLine peer (.scripted answers (sent ++ [request]))) := by
  simp [exchange, scripted]

theorem exchange_system
    (scripted : world.system = .scripted answers sent)
    (request : Http.Request) :
    world.exchange .system request =
      (scriptedAnswer answers sent.length request,
        { world with system := .scripted answers (sent ++ [request]) }) :=
  world.exchange_scripted .system scripted request

end World

/-! ## One lemma for every way to build a step -/

namespace Step

variable {α β : Type} (world : World)

@[simp]
theorem runIn_pure (value : α) : runIn world (pure value : Step α) = (.ok value, world) := rfl

@[simp]
theorem runIn_throw (error : Error) :
    runIn world (throw error : Step α) = (.error error, world) := rfl

/-- A step with another behind it: the second one is run where the first has ended well. -/
theorem runIn_bind (first : Step α) (next : α → Step β) :
    runIn world (first >>= next) =
      match runIn world first with
      | (.ok value, after) => runIn after (next value)
      | (.error error, after) => (.error error, after) := by
  unfold runIn
  rw [ExceptT.run_bind, StateT.run_bind]
  generalize first.run.run world = ended
  rcases ended with ⟨error | value, after⟩ <;> rfl

@[simp]
theorem runIn_ofExcept (result : Except Error α) :
    runIn world (ofExcept result) = (result, world) := rfl

@[simp]
theorem runIn_report (event : Event) :
    runIn world (report event) = (.ok (), world.report event) := rfl

@[simp]
theorem runIn_log (entry : Log.Entry) :
    runIn world (log entry) = (.ok (), world.logAll [entry]) := rfl

@[simp]
theorem runIn_note (order : DeployOrder) :
    runIn world (note order) = (.ok (), { world with orders := world.orders ++ [order] }) := rfl

theorem runIn_adapt (change : Error → Error) (step : Step α) :
    runIn world (step.adapt change) =
      ((runIn world step).1.mapError change, (runIn world step).2) := rfl

@[simp]
theorem runIn_get : runIn world (get : Step World) = (.ok world, world) := rfl

@[simp]
theorem runIn_set (after : World) : runIn world (set after : Step Unit) = (.ok (), after) := rfl

/-- Sending a request ends with the reply, if there is one. -/
theorem runIn_send (peer : Peer) (request : Http.Request) :
    runIn world (send peer request) =
      ((world.exchange peer request).1.received, (world.exchange peer request).2) := by
  simp only [send, runIn_bind, runIn_get, runIn_set]
  rcases world.exchange peer request with ⟨received | reason, after⟩ <;> rfl

/-- An exchange ends with what the answer to its request comes to. -/
theorem runIn_exchange (peer : Peer) (request : Http.Request) :
    runIn world (exchange peer request) =
      ((world.exchange peer request).1.accept request.url, (world.exchange peer request).2) := by
  simp only [exchange, send, runIn_bind, runIn_get, runIn_set, runIn_ofExcept]
  rcases world.exchange peer request with ⟨received | reason, after⟩
  · cases accepted : requireSuccess received request.url <;>
      simp [Http.Answer.accept, accepted, Except.map]
  · simp [Http.Answer.accept]

/-- Events are reported in the order of the items that they are about. -/
theorem runIn_reportEach {ι : Type} (event : ι → Event) (items : List ι) :
    runIn world (items.forM fun item => report (event item)) =
      (.ok (), world.reportAll (items.map event)) := by
  induction items generalizing world with
  | nil => rfl
  | cons item rest induction =>
      rw [List.forM, runIn_bind, runIn_report]
      exact induction (world.report (event item))

/-! ## Steps that only log -/

/-- A step that ends in one way in every world, and leaves nothing behind but log entries. -/
def Silent (step : Step α) (result : Except Error α) : Prop :=
  ∀ world, ∃ log, runIn world step = (result, { world with log })

theorem Silent.pure (value : α) : Silent (pure value) (.ok value) :=
  fun world => ⟨world.log, rfl⟩

theorem Silent.throw (error : Error) : Silent (throw error : Step α) (.error error) :=
  fun world => ⟨world.log, rfl⟩

theorem Silent.ofExcept (result : Except Error α) : Silent (ofExcept result) result :=
  fun world => ⟨world.log, rfl⟩

theorem Silent.log (entry : Log.Entry) : Silent (Step.log entry) (.ok ()) :=
  fun world => ⟨(world.logAll [entry]).log, rfl⟩

theorem Silent.bind
    {first : Step α} {next : α → Step β}
    {value : α} {result : Except Error β}
    (silent : Silent first (.ok value)) (others : Silent (next value) result) :
    Silent (first >>= next) result := by
  intro world
  rcases silent world with ⟨log, ended⟩
  rcases others { world with log } with ⟨log, last⟩
  refine ⟨log, ?_⟩
  rw [runIn_bind, ended]
  exact last

theorem Silent.log_then
    {step : Step α} {result : Except Error α}
    (entry : Log.Entry) (silent : Silent step result) :
    Silent (do Step.log entry; step) result :=
  (Silent.log entry).bind silent

theorem Silent.logEach {ι : Type} (entry : ι → Log.Entry) (items : List ι) :
    Silent (items.forM fun item => Step.log (entry item)) (.ok ()) := by
  induction items with
  | nil => exact Silent.pure ()
  | cons item rest induction => exact Silent.log_then (entry item) induction

theorem Silent.map
    {first : Step α} {next : α → Step β}
    {result : Except Error α} {make : α → β}
    (silent : Silent first result)
    (others : ∀ value, Silent (next value) (.ok (make value))) :
    Silent (first >>= next) (result.map make) := by
  intro world
  rcases silent world with ⟨log, ended⟩
  rw [runIn_bind, ended]
  cases result with
  | error error => exact ⟨log, rfl⟩
  | ok value =>
      rcases others value { world with log } with ⟨log, ended⟩
      exact ⟨log, ended⟩

theorem Silent.keep
    {first : Step α} {next : α → Step α} {result : Except Error α}
    (silent : Silent first result)
    (others : ∀ value, Silent (next value) (.ok value)) :
    Silent (first >>= next) result := by
  have same : result.map id = result := by
    cases result <;> rfl
  rw [← same]
  exact silent.map others

theorem Silent.ofExcept_bind
    {result : Except Error α} {next : α → Step β} {reading : α → Except Error β}
    (others : ∀ value, Silent (next value) (reading value)) :
    Silent (Step.ofExcept result >>= next) (result >>= reading) := by
  intro world
  rw [runIn_bind, runIn_ofExcept]
  cases result with
  | error error => exact ⟨world.log, rfl⟩
  | ok value => exact others value world

/-! ## Errors with which a step never ends -/

/-- A step that ends with no error of the given kind, in whatever world it is run. -/
def Never (kind : Error → Prop) (step : Step α) : Prop :=
  ∀ world error, (runIn world step).1 = .error error → ¬ kind error

section Never

variable {kind : Error → Prop}

theorem Never.pure (value : α) : Never kind (pure value : Step α) := by
  intro world error impossible
  cases impossible

theorem Never.throw {error : Error} (other : ¬ kind error) :
    Never kind (throw error : Step α) := by
  intro world thrown ended
  cases ended
  exact other

theorem Never.ofExcept
    {result : Except Error α} (others : ∀ error, result = .error error → ¬ kind error) :
    Never kind (ofExcept result) :=
  fun _ => others

theorem Never.report (event : Event) : Never kind (report event) := by
  intro world error impossible
  cases impossible

theorem Never.log (entry : Log.Entry) : Never kind (log entry) := by
  intro world error impossible
  cases impossible

theorem Never.bind
    {first : Step α} {next : α → Step β}
    (never : Never kind first) (others : ∀ value, Never kind (next value)) :
    Never kind (first >>= next) := by
  intro world error ended
  rw [runIn_bind] at ended
  rcases course : runIn world first with ⟨cause | value, after⟩
  · rw [course] at ended
    cases ended
    exact never world error (by rw [course])
  · rw [course] at ended
    exact others value after error ended

/-- An exchange fails for want of an answer, or with the status of the reply. -/
theorem Never.exchange
    (transport : ∀ reason, ¬ kind (.transport reason))
    (http : ∀ status url, ¬ kind (.http status url))
    (peer : Peer) (request : Http.Request) :
    Never kind (exchange peer request) := by
  intro world error ended
  rw [runIn_exchange] at ended
  dsimp only at ended
  cases answered : (world.exchange peer request).1 with
  | failure reason =>
      rw [answered] at ended
      cases ended
      exact transport reason
  | reply received =>
      rw [answered, Http.Answer.accept, map_eq_error_iff, requireSuccess] at ended
      split at ended
      · cases ended
      · cases ended
        exact http received.status request.url

end Never

/-! ## Questions -/

/--
A step that sends one request and ends with what it reads out of the answer.  It leaves nothing
else behind but log entries.
-/
def Asks (step : Step α) (peer : Peer) (request : Http.Request)
    (reading : Http.Answer → Except Error α) : Prop :=
  ∀ world, ∃ log, runIn world step =
    (reading (world.exchange peer request).1, { (world.exchange peer request).2 with log })

theorem Asks.fst_runIn
    {step : Step α} {peer : Peer} {request : Http.Request}
    {reading : Http.Answer → Except Error α}
    (asks : Asks step peer request reading) :
    (runIn world step).1 = reading (world.exchange peer request).1 := by
  rcases asks world with ⟨log, ended⟩
  rw [ended]

/-- A question to the system is one request to it and none to the provider. -/
theorem Asks.sent_runIn
    {step : Step α} {request : Http.Request} {reading : Http.Answer → Except Error α}
    (asks : Asks step .system request reading) :
    (runIn world step).2.system.sent = world.system.sent ++ [request] ∧
      (runIn world step).2.provider = world.provider := by
  rcases asks world with ⟨log, ended⟩
  rw [ended]
  exact ⟨Line.sent_exchange _ _, rfl⟩

/-- An exchange with silent steps behind it is a question. -/
theorem Asks.of_exchange
    {peer : Peer} {request : Http.Request}
    {next : Http.Reply → Step α} {reading : Http.Reply → Except Error α}
    (silent : ∀ reply, Silent (next reply) (reading reply)) :
    Asks (exchange peer request >>= next) peer request
      (Http.Answer.read request.url reading) := by
  intro world
  rw [runIn_bind, runIn_exchange]
  unfold Http.Answer.read
  cases (world.exchange peer request).1.accept request.url with
  | error error => exact ⟨(world.exchange peer request).2.log, rfl⟩
  | ok received => exact silent received (world.exchange peer request).2

/-- A request whose reply is not judged by its status, with silent steps behind it. -/
theorem Asks.of_send
    {peer : Peer} {request : Http.Request}
    {next : Http.Reply → Step α} {reading : Http.Reply → Except Error α}
    (silent : ∀ reply, Silent (next reply) (reading reply)) :
    Asks (send peer request >>= next) peer request
      (fun answer => answer.received >>= reading) := by
  intro world
  rw [runIn_bind, runIn_send]
  cases (world.exchange peer request).1 with
  | failure reason => exact ⟨(world.exchange peer request).2.log, rfl⟩
  | reply received => exact silent received (world.exchange peer request).2

theorem Asks.map
    {step : Step α} {next : α → Step β}
    {peer : Peer} {request : Http.Request}
    {reading : Http.Answer → Except Error α} {make : α → β}
    (asks : Asks step peer request reading)
    (others : ∀ value, Silent (next value) (.ok (make value))) :
    Asks (step >>= next) peer request (fun answer => (reading answer).map make) := by
  intro world
  rcases asks world with ⟨log, ended⟩
  rw [runIn_bind, ended]
  dsimp only
  cases reading (world.exchange peer request).1 with
  | error error => exact ⟨log, rfl⟩
  | ok value =>
      rcases others value { (world.exchange peer request).2 with log } with ⟨log, ended⟩
      exact ⟨log, ended⟩

theorem Asks.adapt
    {step : Step α} {peer : Peer} {request : Http.Request}
    {reading : Http.Answer → Except Error α}
    (asks : Asks step peer request reading) (change : Error → Error) :
    Asks (step.adapt change) peer request (fun answer => (reading answer).mapError change) := by
  intro world
  rcases asks world with ⟨log, ended⟩
  exact ⟨log, by rw [runIn_adapt, ended]⟩

variable {step : Step α} {request : Http.Request} {reading : Http.Answer → Except Error α}
  {answers : List Http.Answer} {sent : List Http.Request}

/-- A question on a line with a script: the step behind it is run where an answer is read. -/
theorem Asks.runIn_scripted
    {peer : Peer}
    (asks : Asks step peer request reading)
    (scripted : world.line peer = .scripted answers sent)
    (next : α → Step β) :
    ∃ log,
      let after := { world.setLine peer (.scripted answers (sent ++ [request])) with log }
      runIn world (step >>= next) =
        match reading (scriptedAnswer answers sent.length request) with
        | .ok value => runIn after (next value)
        | .error error => (.error error, after) := by
  rcases asks world with ⟨log, ended⟩
  rw [World.exchange_scripted world peer scripted] at ended
  refine ⟨log, ?_⟩
  rw [runIn_bind, ended]
  cases reading (scriptedAnswer answers sent.length request) <;> rfl

theorem Asks.runIn_system
    (asks : Asks step .system request reading)
    (scripted : world.system = .scripted answers sent)
    (next : α → Step β) :
    ∃ log,
      let after := { world with system := .scripted answers (sent ++ [request]), log }
      runIn world (step >>= next) =
        match reading (scriptedAnswer answers sent.length request) with
        | .ok value => runIn after (next value)
        | .error error => (.error error, after) :=
  asks.runIn_scripted world scripted next

theorem Asks.runIn_provider
    (asks : Asks step .provider request reading)
    (scripted : world.provider = .scripted answers sent)
    (next : α → Step β) :
    ∃ log,
      let after := { world with provider := .scripted answers (sent ++ [request]), log }
      runIn world (step >>= next) =
        match reading (scriptedAnswer answers sent.length request) with
        | .ok value => runIn after (next value)
        | .error error => (.error error, after) :=
  asks.runIn_scripted world scripted next

end Step

/-! ## Questions about the items of a list -/

/--
What is read out of the answers to requests about the items of a list, when these are sent one after
the other and the first of them takes the answer at the given place.
-/
def readings {ι α : Type} (answers : List Http.Answer) (request : ι → Http.Request)
    (reading : ι → Http.Answer → α) (place : Nat) (items : List ι) : List α :=
  items.mapIdx fun index item =>
    reading item (scriptedAnswer answers (place + index) (request item))

section Readings

variable {ι α : Type} (answers : List Http.Answer) (request : ι → Http.Request)
  (reading : ι → Http.Answer → α) (place : Nat)

@[simp]
theorem readings_nil : readings answers request reading place [] = [] := rfl

@[simp]
theorem readings_cons (item : ι) (items : List ι) :
    readings answers request reading place (item :: items) =
      reading item (scriptedAnswer answers place (request item)) ::
        readings answers request reading (place + 1) items := by
  simp [readings, List.mapIdx_cons, Nat.add_assoc, Nat.add_comm 1]

theorem readings_getElem? (items : List ι) (index : Nat) :
    (readings answers request reading place items)[index]? =
      items[index]?.map fun item =>
        reading item (scriptedAnswer answers (place + index) (request item)) := by
  simp [readings]

/--
The requests about the items of a list, up to and including the first one with which the asking
ends.
-/
def requestsUntil (ends : α → Bool) (items : List ι) : List Http.Request :=
  (items.take ((readings answers request reading place items).findIdx ends + 1)).map request

variable (ends : α → Bool)

@[simp]
theorem requestsUntil_nil : requestsUntil answers request reading place ends [] = [] := by
  simp [requestsUntil]

/-- The first item is always asked about, the others only if the asking does not end with it. -/
theorem requestsUntil_cons (item : ι) (items : List ι) :
    requestsUntil answers request reading place ends (item :: items) =
      request item ::
        if ends (reading item (scriptedAnswer answers place (request item))) then []
        else requestsUntil answers request reading (place + 1) ends items := by
  unfold requestsUntil
  rw [readings_cons, List.findIdx_cons]
  cases ends (reading item (scriptedAnswer answers place (request item))) <;> simp

/-- The asking ends with a known item. -/
theorem requestsUntil_eq_take
    {items : List ι} {index : Nat} {value : α}
    (here : (readings answers request reading place items)[index]? = some value)
    (last : ends value = true)
    (before : ∀ earlier < index, ∃ value,
      (readings answers request reading place items)[earlier]? = some value ∧
        ends value = false) :
    requestsUntil answers request reading place ends items =
      (items.take (index + 1)).map request := by
  rcases List.getElem?_eq_some_iff.mp here with ⟨less, equal⟩
  have stop : (readings answers request reading place items).findIdx ends = index := by
    rw [List.findIdx_eq less]
    refine ⟨by rw [equal, last], ?_⟩
    intro earlier earlierLess
    rcases before earlier earlierLess with ⟨other, found, passed⟩
    rcases List.getElem?_eq_some_iff.mp found with ⟨_, same⟩
    rw [same, passed]
  rw [requestsUntil, stop]

end Readings

end ChangeTransport
