import ChangeTransport.Deploy.Order
import ChangeTransport.Http.Message
import ChangeTransport.Progress

/-!
# Steps

A step sends requests on two lines: one to the system, one to the hosting provider.  It ends with a
value or with an error, and leaves behind what it has sent, the events it has reported and the
entries it has logged.

What answers on a line is either a script, of which every request takes the next answer whatever it
asks for, or a network, where the answer depends on the request alone.
-/

namespace ChangeTransport

/-- A text that is given; an empty one counts as none. -/
def given? (text : Option String) : Option String :=
  text.filter (fun text => !text.isEmpty)

/-- Insist on a reply that says that the request to the given address has been carried out. -/
def requireSuccess (reply : Http.Reply) (url : String) : Except Error Unit :=
  if reply.isSuccess then .ok () else .error (.http reply.status url)

/-- What answers on a line. -/
inductive Answerer where
  | script (answers : List Http.Answer)
  /-- Requests to a network are noted in the log. -/
  | network (answer : Http.Request → Http.Answer)

/-- A line, and the requests sent on it so far. -/
structure Line where
  answerer : Answerer
  sent : List Http.Request

namespace Line

/-- A line with a script on which nothing has been sent. -/
def ofScript (answers : List Http.Answer) : Line := ⟨.script answers, []⟩

/-- Send a request: its answer, and the line afterwards. -/
def exchange (line : Line) (request : Http.Request) : Http.Answer × Line :=
  let sent := line.sent ++ [request]
  match line.answerer with
  | .script [] =>
    (.failure ("no scripted response left for " ++ request.url), ⟨.script [], sent⟩)
  | .script (answer :: answers) => (answer, ⟨.script answers, sent⟩)
  | .network answer => (answer request, ⟨.network answer, sent⟩)

/-- What is logged before a request is sent. -/
def entries (line : Line) (request : Http.Request) : List Log.Entry :=
  match line.answerer with
  | .script _ => []
  | .network _ =>
    [⟨.debug, .transport, some "sending request",
      [.shown "method" request.method.name, .shown "url" request.url]⟩]

end Line

/-- Whom a request is sent to. -/
inductive Peer where
  | system
  | provider
  deriving Repr, DecidableEq

/-- The two lines, and what the steps so far have left behind. -/
structure World where
  system : Line
  provider : Line
  observer : Observer
  events : List Event
  log : List Log.Entry
  /-- The deploy orders that have been noted down. -/
  orders : List DeployOrder

namespace World

/-- A world in which nothing has happened. -/
def start (system provider : Line) (observer : Observer) : World :=
  ⟨system, provider, observer, [], [], []⟩

/-- The line to a peer. -/
def line (world : World) : Peer → Line
  | .system => world.system
  | .provider => world.provider

/-- A world with another line to a peer. -/
def setLine (world : World) (peer : Peer) (line : Line) : World :=
  match peer with
  | .system => { world with system := line }
  | .provider => { world with provider := line }

/-- A world with more log entries. -/
def logAll (world : World) (entries : List Log.Entry) : World :=
  { world with log := world.log ++ entries }

/-- What an event leaves behind. -/
def report (world : World) (event : Event) : World :=
  match world.observer with
  | .recording => { world with events := world.events ++ [event] }
  | .ignoring => world
  | .logging => world.logAll [event.entry]

/-- Send a request: its answer, and the world afterwards. -/
def exchange (world : World) (peer : Peer) (request : Http.Request) : Http.Answer × World :=
  let line := world.line peer
  let (answer, after) := line.exchange request
  (answer, (world.logAll (line.entries request)).setLine peer after)

end World

/-- What changes a world and ends with a value or an error. -/
abbrev Step (α : Type) := ExceptT Error (StateM World) α

namespace Step

/-- Run a step: how it ends, and the world afterwards. -/
def runIn {α : Type} (world : World) (step : Step α) : Except Error α × World :=
  (ExceptT.run step).run world

/-- A step that does nothing but end. -/
def ofExcept {α : Type} (result : Except Error α) : Step α := ExceptT.mk (pure result)

/-- Send a request and wait for the reply. -/
def send (peer : Peer) (request : Http.Request) : Step Http.Reply := do
  let world ← get
  let (answer, after) := world.exchange peer request
  set after
  match answer with
  | .reply reply => pure reply
  | .failure reason => throw (.transport reason)

/-- Report an event. -/
def report (event : Event) : Step Unit :=
  modify (fun world => world.report event)

/-- Log an entry. -/
def log (entry : Log.Entry) : Step Unit :=
  modify (fun world => world.logAll [entry])

/-- Note down a deploy order. -/
def note (order : DeployOrder) : Step Unit :=
  modify (fun world => { world with orders := world.orders ++ [order] })

/-- Send a request, and insist on its being carried out. -/
def exchange (peer : Peer) (request : Http.Request) : Step Http.Reply := do
  let reply ← send peer request
  ofExcept (requireSuccess reply request.url)
  pure reply

end Step

end ChangeTransport
