import CloudRehearsal.Client.Call
import CloudRehearsal.Proofs.Attempt

/-!
What a call does to its surroundings, whatever they are. `Call.Silent`: it sends nothing. `Call.Asks`:
it sends exactly one request, and its result is read off the reply and nothing else.

Every call of a client is built from the steps of `Call`, and one lemma for each step says which of
the two it is; `Asks.after` and `Asks.bind` put the steps together.
-/
namespace CloudRehearsal

variable {σ α β : Type}

/-- Some more events have been noted, and nothing else has happened. -/
structure World.Noted (w w' : World σ) : Prop where
  service : w'.service = w.service
  drawn : w'.drawn = w.drawn
  requests : w'.requests = w.requests

namespace World

theorem Noted.refl (w : World σ) : w.Noted w := ⟨rfl, rfl, rfl⟩

theorem Noted.trans {w w' w'' : World σ} (h : w.Noted w') (h' : w'.Noted w'') : w.Noted w'' :=
  ⟨h'.service.trans h.service, h'.drawn.trans h.drawn, h'.requests.trans h.requests⟩

/-- A request has been sent and answered. -/
def answered (server : Server σ) (request : Request) (w : World σ) : World σ :=
  { w with
    service := (server.answer request w.service).2
    requests := w.requests ++ [request] }

/-- What was noted before a request is noted after it. -/
theorem Noted.answered {w w' : World σ} (h : w.Noted w') (server : Server σ) (request : Request) :
    (w.answered server request).Noted (w'.answered server request) := by
  refine ⟨?_, h.drawn, ?_⟩
  · simp only [World.answered, h.service]
  · simp only [World.answered, h.requests]

end World

namespace Call

/-- The call sends nothing and comes to `result`. -/
structure Silent (c : Call α) (result : Except ClientError α) : Prop where
  run : ∀ {σ : Type} (server : Server σ) (ids : Nat → Uuid) (w : World σ),
    ∃ w', Session.attempt c server ids w = (result, w') ∧ w.Noted w'

/-- The call sends the request and nothing else, and `read` says what a reply comes to. -/
structure Asks (c : Call α) (request : Request)
    (read : Reply request.Output → Except ClientError α) : Prop where
  run : ∀ {σ : Type} (server : Server σ) (ids : Nat → Uuid) (w : World σ),
    ∃ w', Session.attempt c server ids w = (read (server.answer request w.service).1, w') ∧
      (w.answered server request).Noted w'

/-! ## Calls that send nothing -/

theorem Silent.pure (a : α) : Silent (Pure.pure a) (.ok a) :=
  ⟨fun _ _ w => ⟨w, rfl, .refl w⟩⟩

theorem Silent.throw (e : ClientError) : Silent (MonadExcept.throw e : Call α) (.error e) :=
  ⟨fun _ _ w => ⟨w, rfl, .refl w⟩⟩

theorem Silent.mk' (result : Except ClientError α) : Silent (ExceptT.mk (Pure.pure result)) result :=
  ⟨fun _ _ w => ⟨w, rfl, .refl w⟩⟩

theorem Silent.note (event : Log.Event) : Silent (Call.note event) (.ok ()) :=
  ⟨fun _ _ w => ⟨{ w with events := w.events ++ [event] }, rfl, ⟨rfl, rfl, rfl⟩⟩⟩

theorem Silent.bind {c : Call α} {result : Except ClientError α} {f : α → Call β}
    {next : α → Except ClientError β} (h : c.Silent result) (hf : ∀ a, (f a).Silent (next a)) :
    (c >>= f).Silent (result >>= next) := by
  refine ⟨fun server ids w => ?_⟩
  obtain ⟨w', e, n⟩ := h.run server ids w
  cases result with
  | error err => exact ⟨w', Session.attempt_bind_error e, n⟩
  | ok a =>
    obtain ⟨w'', e', n'⟩ := (hf a).run server ids w'
    exact ⟨w'', (Session.attempt_bind_ok e).trans e', n.trans n'⟩

/-! ## Calls that send one request -/

theorem Asks.after {c : Call α} {a : α} {f : α → Call β} {request : Request}
    {read : Reply request.Output → Except ClientError β} (h : c.Silent (.ok a))
    (hf : (f a).Asks request read) : (c >>= f).Asks request read := by
  refine ⟨fun server ids w => ?_⟩
  obtain ⟨w', e, n⟩ := h.run server ids w
  obtain ⟨w'', e', n'⟩ := hf.run server ids w'
  rw [n.service] at e'
  exact ⟨w'', (Session.attempt_bind_ok e).trans e', (n.answered server request).trans n'⟩

/-- What follows the request only reads the reply on. -/
theorem Asks.bind {c : Call α} {f : α → Call β} {request : Request}
    {read : Reply request.Output → Except ClientError α} {next : α → Except ClientError β}
    (h : c.Asks request read) (hf : ∀ a, (f a).Silent (next a)) :
    (c >>= f).Asks request fun reply => read reply >>= next := by
  refine ⟨fun server ids w => ?_⟩
  obtain ⟨w', e, n⟩ := h.run server ids w
  show ∃ w'', _ = (read (server.answer request w.service).1 >>= next, w'') ∧ _
  cases hr : read (server.answer request w.service).1 with
  | error err =>
    rw [hr] at e
    exact ⟨w', Session.attempt_bind_error e, n⟩
  | ok a =>
    rw [hr] at e
    obtain ⟨w'', e', n'⟩ := (hf a).run server ids w'
    exact ⟨w'', (Session.attempt_bind_ok e).trans e', n.trans n'⟩

end Call

/-- What a reply comes to when `explain` says what a failure means. -/
def Reply.understood (explain : SendError → ClientError) (reply : Reply α) :
    Except ClientError α :=
  reply.result.mapError explain

namespace Call

theorem asks_of_send {request : Request} (h : request.emptyMember? = none)
    {next : Except SendError request.Output → Session (Except ClientError α)}
    (look : Except SendError request.Output → Except ClientError α)
    (hn : ∀ r, next r = pure (look r)) :
    Asks (ExceptT.mk (Session.send request >>= next)) request fun reply => look reply.result := by
  refine ⟨fun server ids w => ⟨w.answered server request, ?_, .refl _⟩⟩
  have hs := Session.run_send server ids w h
  unfold Session.run at hs
  show Program.run _ (Session.send request >>= next) w = _
  rw [Program.run_bind, hs, hn]
  rfl

theorem send_asks {request : Request} (h : request.emptyMember? = none)
    (explain : SendError → ClientError) :
    (Call.send request explain).Asks request (Reply.understood explain) := by
  refine asks_of_send h (fun r => r.mapError explain) fun r => ?_
  cases r <;> rfl

theorem sendPlain_asks {request : Request} (h : request.emptyMember? = none) :
    (Call.sendPlain request).Asks request
      (Reply.understood (ClientError.ofSend request.operation.name)) :=
  send_asks h _

/-- The member of a response that must be there. -/
def expected (field : String) : Option α → Except ClientError α
  | some a => .ok a
  | none => .error (.missingField field)

theorem required_silent (field : String) (o : Option α) :
    (Call.required field o).Silent (expected field o) := by
  cases o with
  | none => exact Silent.throw _
  | some a => exact Silent.pure a

end Call

end CloudRehearsal
