import CloudRehearsal.Exchange.Program
import CloudRehearsal.Exchange.Reply
import CloudRehearsal.Log.Event

/-!
Sessions: what a client does with services, a request at a time. A session sends requests, draws
fresh identifiers and notes events, and knows nothing else of its surroundings.

The names of resources must not collide with any other, so each is a label and the start of a fresh
random identifier.

`Session.run` lets a session meet a server, which is any state machine that answers requests, and
keeps the account of what was sent and noted.
-/
namespace CloudRehearsal

/-! ## Names of resources -/

/-- A random identifier of 128 bits. -/
abbrev Uuid := BitVec 128

/-- The 32 hexadecimal digits of an identifier. -/
def Uuid.hex (u : Uuid) : List Char := Text.hexPadded 32 u.toNat

/-- How many digits of an identifier a name carries. -/
def suffixLength : Nat := 8

/-- The name of a resource: its label, a hyphen, and the first digits of the identifier. -/
def resourceName (label : String) (u : Uuid) : String :=
  label ++ "-" ++ String.ofList (u.hex.take suffixLength)

/-! ## Sessions -/

/-- One thing that a session does. -/
inductive Act where
  | send (request : Request)
  | draw
  | note (event : Log.Event)

/-- What a session learns from what it does. -/
@[reducible]
def Act.Answer : Act → Type
  | .send request => Reply request.Output
  | .draw => Uuid
  | .note _ => Unit

/-- A course of requests, each chosen by the replies so far. -/
abbrev Session := Program Act.Answer

namespace Session

/-- Sends a request. One that cannot be built is lost without being sent. -/
def send (request : Request) : Session (Except SendError request.Output) :=
  match request.emptyMember? with
  | some member =>
    pure (.error (.lost ⟨.construction,
      s!"invalid field in input: {member} (details: cannot be empty or unset)"⟩))
  | none => do
    let reply : Reply request.Output ← Program.perform (Act.send request)
    return reply.result

/-- Draws a fresh identifier. -/
def draw : Session Uuid := Program.perform Act.draw

/-- Notes an event. -/
def note (event : Log.Event) : Session Unit := Program.perform (Act.note event)

/-- A fresh name for a resource. -/
def freshName (label : String) : Session String := return resourceName label (← draw)

end Session

/-! ## Servers -/

/-- A state machine that answers every request. -/
structure Server (σ : Type) where
  answer : (request : Request) → σ → Reply request.Output × σ

/-- A server that no request reaches. -/
def Server.unreachable (σ : Type) : Server σ where
  answer _ s := (.lost ⟨.connectIo, "connection refused"⟩, s)

/-- What a session meets, and the account of it. -/
structure World (σ : Type) where
  /-- The state of the server. -/
  service : σ
  /-- How many identifiers have been drawn. -/
  drawn : Nat
  /-- The requests that were sent, in order. -/
  requests : List Request
  /-- The events that were noted, in order. -/
  events : List Log.Event

namespace World

variable {σ : Type}

/-- Nothing has happened yet. -/
def start (service : σ) : World σ := ⟨service, 0, [], []⟩

/-- Answers one act: requests by the server, identifiers from the list `ids`. -/
def respond (server : Server σ) (ids : Nat → Uuid) : (act : Act) → World σ → act.Answer × World σ
  | .send request, w =>
    let (reply, service) := server.answer request w.service
    (reply, { w with service, requests := w.requests ++ [request] })
  | .draw, w => (ids w.drawn, { w with drawn := w.drawn + 1 })
  | .note event, w => ((), { w with events := w.events ++ [event] })

end World

/-- Runs a session. -/
def Session.run {σ α : Type} (session : Session α) (server : Server σ) (ids : Nat → Uuid)
    (w : World σ) : α × World σ :=
  Program.run (World.respond server ids) session w

namespace Session

variable {σ α β : Type} (server : Server σ) (ids : Nat → Uuid) (w : World σ)

theorem run_pure (a : α) : (pure a : Session α).run server ids w = (a, w) := rfl

theorem run_bind (session : Session α) (f : α → Session β) :
    (session >>= f).run server ids w =
      (f (session.run server ids w).1).run server ids (session.run server ids w).2 :=
  Program.run_bind _ _ _ _

theorem run_note (event : Log.Event) :
    (note event).run server ids w = ((), { w with events := w.events ++ [event] }) := rfl

theorem run_draw :
    draw.run server ids w = (ids w.drawn, { w with drawn := w.drawn + 1 }) := rfl

/-- A request that can be built is sent once, and the service answers it. -/
theorem run_send {request : Request} (h : request.emptyMember? = none) :
    (send request).run server ids w =
      ((server.answer request w.service).1.result,
        { w with
          service := (server.answer request w.service).2
          requests := w.requests ++ [request] }) := by
  simp only [send, h]
  rfl

end Session

end CloudRehearsal
