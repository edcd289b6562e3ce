import Mathlib.Data.List.Forall2
import ChangeTransport.UnitTest.Run
import ChangeTransport.Proofs.Running

/-!
# Runs side by side

Two steps are run side by side in two worlds that are alike: what has been reported and logged is
the same, and the scripts of their lines hold answers that are alike.  How far the requests that
have been sent may differ is left open; it is given by a relation for each of the two peers.

Steps are alike if they lead from worlds that are alike to such worlds and end alike.  There is one
lemma for every way to build a step, so that steps of one shape are seen to be alike part by part.
-/

namespace ChangeTransport

/-! ## Answers and ends -/

/-- Replies with one status and one body, of which both give a token or neither does. -/
structure Http.Reply.Alike (first second : Http.Reply) : Prop where
  status : first.status = second.status
  body : first.body = second.body
  token : (Token.ofReply? first).isSome = (Token.ofReply? second).isSome

/-- Answers with replies that are alike, or the same failure. -/
inductive Http.Answer.Alike : Http.Answer → Http.Answer → Prop
  | reply {first second : Http.Reply} (alike : first.Alike second) :
      Alike (.reply first) (.reply second)
  | failure (reason : String) : Alike (.failure reason) (.failure reason)

theorem Http.Answer.Alike.refl : (answer : Http.Answer) → answer.Alike answer
  | .reply _ => .reply ⟨rfl, rfl, rfl⟩
  | .failure reason => .failure reason

theorem Http.Answer.Alike.forall₂_refl (answers : List Http.Answer) :
    List.Forall₂ Http.Answer.Alike answers answers :=
  List.forall₂_same.mpr fun answer _ => Http.Answer.Alike.refl answer

/-- Ends with related values, or with the same error. -/
inductive EndAlike {α β : Type} (values : α → β → Prop) : Except Error α → Except Error β → Prop
  | ok {first : α} {second : β} (related : values first second) :
      EndAlike values (.ok first) (.ok second)
  | error (error : Error) : EndAlike values (.error error) (.error error)

section Ends

variable {α β : Type}

theorem EndAlike.of_eq {first second : Except Error α} (same : first = second) :
    EndAlike Eq first second := by
  subst same
  cases first with
  | ok value => exact .ok rfl
  | error error => exact .error error

theorem EndAlike.eq {first second : Except Error α} (alike : EndAlike Eq first second) :
    first = second := by
  cases alike with
  | ok related => rw [related]
  | error error => rfl

theorem Http.Reply.Alike.isSuccess {first second : Http.Reply} (alike : first.Alike second) :
    first.isSuccess = second.isSuccess := by
  rw [Http.Reply.isSuccess, Http.Reply.isSuccess, alike.status]

/-- Only the status and the body decide whether a reply is accepted. -/
theorem Http.Answer.Alike.accept {first second : Http.Answer}
    (alike : first.Alike second) (url : String) :
    EndAlike Http.Reply.Alike (first.accept url) (second.accept url) := by
  cases alike with
  | failure reason => exact .error _
  | @reply first second alike =>
      unfold Http.Answer.accept requireSuccess
      dsimp only
      rw [← alike.isSuccess, ← alike.status]
      cases first.isSuccess with
      | true => exact .ok alike
      | false => exact .error _

/-- Replies that are alike are read alike. -/
theorem Http.Reply.Alike.decodeReply {first second : Http.Reply} (alike : first.Alike second)
    (decoder : Json.Decoder α) :
    ChangeTransport.decodeReply decoder first = ChangeTransport.decodeReply decoder second := by
  rw [ChangeTransport.decodeReply, ChangeTransport.decodeReply, alike.body]

theorem Http.Reply.Alike.decodeDocument {first second : Http.Reply} (alike : first.Alike second)
    (decoder : Xml.Decoder α) (root : String) :
    ChangeTransport.decodeDocument decoder root first =
      ChangeTransport.decodeDocument decoder root second := by
  rw [ChangeTransport.decodeDocument, ChangeTransport.decodeDocument, alike.body]

end Ends

/-! ## Lines and worlds -/

/-- Lines with scripts that are alike, on which related requests have been sent. -/
inductive Line.Alike (requests : Http.Request → Http.Request → Prop) : Line → Line → Prop
  | scripted {answers others : List Http.Answer} {sent asked : List Http.Request}
      (answered : List.Forall₂ Http.Answer.Alike answers others)
      (related : List.Forall₂ requests sent asked) :
      Alike requests ⟨.script answers, sent⟩ ⟨.script others, asked⟩

namespace Line.Alike

variable {requests : Http.Request → Http.Request → Prop} {first second : Line}
  {request other : Http.Request}

theorem sent (alike : first.Alike requests second) :
    List.Forall₂ requests first.sent second.sent := by
  cases alike with
  | scripted answered related => exact related

theorem entries (alike : first.Alike requests second) :
    first.entries request = second.entries other := by
  cases alike with
  | scripted answered related => rfl

/-- Related requests for one address are answered alike, and leave lines that are alike. -/
theorem exchange (alike : first.Alike requests second)
    (related : requests request other) (url : request.url = other.url) :
    (first.exchange request).1.Alike (second.exchange other).1 ∧
      (first.exchange request).2.Alike requests (second.exchange other).2 := by
  rcases alike with @⟨answers, others, sent, asked, answered, before⟩
  have after : List.Forall₂ requests (sent ++ [request]) (asked ++ [other]) :=
    List.rel_append before (.cons related .nil)
  cases answered with
  | nil =>
      refine ⟨?_, .scripted .nil after⟩
      rw [Line.exchange, Line.exchange, url]
      exact .failure _
  | cons answer answered => exact ⟨answer, .scripted answered after⟩

end Line.Alike

/-- Worlds with lines that are alike, in which the same has been reported, logged and noted. -/
structure World.Alike (requests : Peer → Http.Request → Http.Request → Prop)
    (first second : World) : Prop where
  lines : ∀ peer, (first.line peer).Alike (requests peer) (second.line peer)
  observer : first.observer = second.observer
  events : first.events = second.events
  log : first.log = second.log
  orders : first.orders = second.orders

namespace World.Alike

variable {requests : Peer → Http.Request → Http.Request → Prop} {first second : World}

/-- Worlds in which nothing has happened are alike if their scripts are. -/
theorem start {system others provider further : List Http.Answer}
    (systems : List.Forall₂ Http.Answer.Alike system others)
    (providers : List.Forall₂ Http.Answer.Alike provider further) (observer : Observer) :
    (World.start (.ofScript system) (.ofScript provider) observer).Alike requests
      (World.start (.ofScript others) (.ofScript further) observer) where
  lines peer := by
    cases peer with
    | system => exact .scripted systems .nil
    | provider => exact .scripted providers .nil
  observer := rfl
  events := rfl
  log := rfl
  orders := rfl

theorem logAll (alike : first.Alike requests second) (entries : List Log.Entry) :
    (first.logAll entries).Alike requests (second.logAll entries) where
  lines peer := by
    have line := alike.lines peer
    cases peer <;> exact line
  observer := alike.observer
  events := alike.events
  log := congrArg (· ++ entries) alike.log
  orders := alike.orders

theorem report (alike : first.Alike requests second) (event : Event) :
    (first.report event).Alike requests (second.report event) := by
  unfold World.report
  rw [← alike.observer]
  cases first.observer with
  | ignoring => exact alike
  | logging => exact alike.logAll [event.entry]
  | recording =>
      refine ⟨?_, rfl, congrArg (· ++ [event]) alike.events, alike.log, alike.orders⟩
      intro peer
      have line := alike.lines peer
      cases peer <;> exact line

theorem setLine (alike : first.Alike requests second) {peer : Peer} {line other : Line}
    (lines : line.Alike (requests peer) other) :
    (first.setLine peer line).Alike requests (second.setLine peer other) := by
  cases peer with
  | system =>
      refine ⟨?_, alike.observer, alike.events, alike.log, alike.orders⟩
      intro peer
      cases peer with
      | system => exact lines
      | provider => exact alike.lines .provider
  | provider =>
      refine ⟨?_, alike.observer, alike.events, alike.log, alike.orders⟩
      intro peer
      cases peer with
      | system => exact alike.lines .system
      | provider => exact lines

theorem exchange (alike : first.Alike requests second)
    {peer : Peer} {request other : Http.Request}
    (related : requests peer request other) (url : request.url = other.url) :
    (first.exchange peer request).1.Alike (second.exchange peer other).1 ∧
      (first.exchange peer request).2.Alike requests (second.exchange peer other).2 := by
  rcases (alike.lines peer).exchange related url with ⟨answers, lines⟩
  have entries : (first.line peer).entries request = (second.line peer).entries other :=
    (alike.lines peer).entries
  refine ⟨answers, ?_⟩
  unfold World.exchange
  dsimp only
  rw [entries]
  exact (alike.logAll _).setLine lines

end World.Alike

/-! ## Steps -/

/-- Steps that lead from worlds that are alike to such worlds, and end alike. -/
def Step.Alike {α β : Type} (requests : Peer → Http.Request → Http.Request → Prop)
    (values : α → β → Prop) (first : Step α) (second : Step β) : Prop :=
  ∀ world other : World, world.Alike requests other →
    EndAlike values (runIn world first).1 (runIn other second).1 ∧
      (runIn world first).2.Alike requests (runIn other second).2

namespace Step.Alike

variable {α β γ δ : Type} {requests : Peer → Http.Request → Http.Request → Prop}
  {values : α → β → Prop}

theorem pure {first : α} {second : β} (related : values first second) :
    Step.Alike requests values (pure first) (pure second) :=
  fun _ _ alike => ⟨.ok related, alike⟩

theorem throw (error : Error) :
    Step.Alike requests values (throw error) (throw error) :=
  fun _ _ alike => ⟨.error error, alike⟩

theorem ofExcept {first : Except Error α} {second : Except Error β}
    (ends : EndAlike values first second) :
    Step.Alike requests values (ofExcept first) (ofExcept second) :=
  fun _ _ alike => ⟨ends, alike⟩

theorem log (entry : Log.Entry) :
    Step.Alike requests Eq (Step.log entry) (Step.log entry) :=
  fun _ _ alike => ⟨.ok rfl, alike.logAll [entry]⟩

theorem report (event : Event) :
    Step.Alike requests Eq (Step.report event) (Step.report event) :=
  fun _ _ alike => ⟨.ok rfl, alike.report event⟩

/-- Steps with others behind them are alike, if those are for related values. -/
theorem bind {first : Step α} {second : Step β} {next : α → Step γ} {further : β → Step δ}
    {results : γ → δ → Prop}
    (alike : Step.Alike requests values first second)
    (others : ∀ value other, values value other →
      Step.Alike requests results (next value) (further other)) :
    Step.Alike requests results (first >>= next) (second >>= further) := by
  intro world other worlds
  have both := alike world other worlds
  rw [runIn_bind, runIn_bind]
  generalize runIn world first = run at both ⊢
  generalize runIn other second = otherRun at both ⊢
  rcases run with ⟨ended, after⟩
  rcases otherRun with ⟨otherEnded, otherAfter⟩
  rcases both with ⟨ends, left⟩
  -- the steps behind are taken in both runs or in neither
  cases ends with
  | ok related => exact others _ _ related _ _ left
  | error error => exact ⟨.error error, left⟩

/-- The same value is handed on by steps that end with the same value. -/
theorem bind_eq {first second : Step α} {next : α → Step γ} {further : α → Step δ}
    {results : γ → δ → Prop}
    (alike : Step.Alike requests Eq first second)
    (others : ∀ value, Step.Alike requests results (next value) (further value)) :
    Step.Alike requests results (first >>= next) (second >>= further) := by
  apply alike.bind
  rintro value _ rfl
  exact others value

theorem forM {ι : Type} {step other : ι → Step Unit} (items : List ι)
    (each : ∀ item, Step.Alike requests Eq (step item) (other item)) :
    Step.Alike requests Eq (items.forM step) (items.forM other) := by
  induction items with
  | nil => exact pure rfl
  | cons item rest induction => exact (each item).bind_eq fun _ => induction

/-- Related requests for one address get replies that are alike. -/
theorem exchange {peer : Peer} {request other : Http.Request}
    (related : requests peer request other) (url : request.url = other.url) :
    Step.Alike requests Http.Reply.Alike (exchange peer request) (exchange peer other) := by
  intro world second worlds
  rcases worlds.exchange related url with ⟨answers, left⟩
  rw [runIn_exchange, runIn_exchange, url]
  exact ⟨answers.accept other.url, left⟩

/-- What is read out of the bodies of the replies is the same. -/
theorem decoded {peer : Peer} {request other : Http.Request}
    (related : requests peer request other) (url : request.url = other.url)
    (decoder : Json.Decoder α) :
    Step.Alike requests Eq
      (Step.exchange peer request >>= fun reply => Step.ofExcept (decodeReply decoder reply))
      (Step.exchange peer other >>= fun reply => Step.ofExcept (decodeReply decoder reply)) :=
  (exchange related url).bind fun _ _ replies => ofExcept (.of_eq (replies.decodeReply decoder))

end Step.Alike

end ChangeTransport
