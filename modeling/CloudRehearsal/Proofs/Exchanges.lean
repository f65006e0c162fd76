import CloudRehearsal.Proofs.Checking
import CloudRehearsal.Sample.Report

/-!
What passes between a session and a server: requests, each with the reply to it. `Course` says of a call
or a check what it comes to and what has passed by then, whatever the server is; there is one rule for
each step that calls and checks are made of.

A server is a state machine, so what has passed is known from the requests that were sent and the state
that they were sent in (`Server.exchanges`).
-/
namespace CloudRehearsal

open Checking

variable {σ α β ε δ : Type}

/-- A request and the reply to it. -/
structure Exchange where
  request : Request
  reply : Reply request.Output

namespace Server

variable (server : Server σ)

/-- The state of a server that has answered requests one after the other. -/
def after : List Request → σ → σ
  | [], s => s
  | r :: rs, s => after rs (server.answer r s).2

/-- What passes when a server is sent requests one after the other. -/
def exchanges : List Request → σ → List Exchange
  | [], _ => []
  | r :: rs, s => ⟨r, (server.answer r s).1⟩ :: exchanges rs (server.answer r s).2

theorem after_append (rs rs' : List Request) (s : σ) :
    server.after (rs ++ rs') s = server.after rs' (server.after rs s) := by
  induction rs generalizing s with
  | nil => rfl
  | cons r rs ih => exact ih _

theorem exchanges_append (rs rs' : List Request) (s : σ) :
    server.exchanges (rs ++ rs') s =
      server.exchanges rs s ++ server.exchanges rs' (server.after rs s) := by
  induction rs generalizing s with
  | nil => rfl
  | cons r rs ih => exact congrArg (⟨r, (server.answer r s).1⟩ :: ·) (ih _)

end Server

/-! ## From one world to another -/

/-- These requests have been sent, and nothing else has changed the server. -/
structure World.Went (server : Server σ) (w : World σ) (sent : List Request) (w' : World σ) :
    Prop where
  requests : w'.requests = w.requests ++ sent
  service : w'.service = server.after sent w.service

namespace World

variable {server : Server σ} {w w' w'' : World σ}

theorem Noted.went (h : w.Noted w') : w.Went server [] w' :=
  ⟨h.requests.trans (List.append_nil _).symm, h.service⟩

theorem Noted.went_answered {r : Request} (h : (w.answered server r).Noted w') :
    w.Went server [r] w' :=
  ⟨h.requests, h.service⟩

theorem Went.refl (server : Server σ) (w : World σ) : w.Went server [] w := (Noted.refl w).went

theorem Went.trans {sent sent' : List Request} (h : w.Went server sent w')
    (h' : w'.Went server sent' w'') : w.Went server (sent ++ sent') w'' := by
  refine ⟨?_, ?_⟩
  · rw [h'.requests, h.requests, List.append_assoc]
  · rw [h'.service, h.service, server.after_append]

end World

theorem SampleReport.step_silent (r : SampleReport) (action detail : String) :
    (r.step action detail).Silent (.ok (r.add action detail)) :=
  (Call.Silent.note _).bind fun _ => .pure _

/-! ## Courses -/

/-- After `xs` has passed, the program comes to a result, and `post` holds of the result and of all that
has passed by then. -/
structure Course (xs : List Exchange) (p : ExceptT ε Session α)
    (post : Except ε α → List Exchange → Prop) : Prop where
  run : ∀ {σ : Type} (server : Server σ) (ids : Nat → Uuid) (w : World σ),
    ∃ result sent w', Session.attempt p server ids w = (result, w') ∧ w.Went server sent w' ∧
      post result (xs ++ server.exchanges sent w.service)

namespace Course

variable {xs : List Exchange} {post : Except ε α → List Exchange → Prop}

theorem pure {a : α} (h : post (.ok a) xs) : Course xs (Pure.pure a) post :=
  ⟨fun server _ w => ⟨.ok a, [], w, rfl, .refl server w, by simpa [Server.exchanges] using h⟩⟩

theorem throw {e : ε} (h : post (.error e) xs) : Course xs (MonadExcept.throw e) post :=
  ⟨fun server _ w => ⟨.error e, [], w, rfl, .refl server w, by simpa [Server.exchanges] using h⟩⟩

theorem mono {mid : Except ε α → List Exchange → Prop} {p : ExceptT ε Session α}
    (h : Course xs p mid) (hm : ∀ r ys, mid r ys → post r ys) : Course xs p post := by
  refine ⟨fun server ids w => ?_⟩
  obtain ⟨r, sent, w', e, went, hr⟩ := h.run server ids w
  exact ⟨r, sent, w', e, went, hm r _ hr⟩

/-- What follows goes on from what has passed, and an error is passed on. -/
theorem bind {mid : Except ε β → List Exchange → Prop} {p : ExceptT ε Session β}
    {f : β → ExceptT ε Session α} (h : Course xs p mid)
    (hok : ∀ b ys, mid (.ok b) ys → Course ys (f b) post)
    (herr : ∀ e ys, mid (.error e) ys → post (.error e) ys) : Course xs (p >>= f) post := by
  refine ⟨fun server ids w => ?_⟩
  obtain ⟨r, sent, w', e, went, hr⟩ := h.run server ids w
  cases r with
  | error err => exact ⟨.error err, sent, w', Session.attempt_bind_error e, went, herr err _ hr⟩
  | ok b =>
    obtain ⟨r', sent', w'', e', went', hr'⟩ := (hok b _ hr).run server ids w'
    refine ⟨r', sent ++ sent', w'', (Session.attempt_bind_ok e).trans e', went.trans went', ?_⟩
    rw [server.exchanges_append, ← List.append_assoc, ← went.service]
    exact hr'

/-- The clean-up goes on from what the body has left, whatever the body has come to. -/
theorem always {mid : Except ε α → List Exchange → Prop} {body : ExceptT ε Session α}
    {cleanUp : ExceptT ε Session Unit} (h : Course xs body mid)
    (hc : ∀ r ys, mid r ys → Course ys cleanUp fun cleaned => post (firstFailure r cleaned)) :
    Course xs (thenAlways body cleanUp) post := by
  refine ⟨fun server ids w => ?_⟩
  obtain ⟨r, sent, w', e, went, hr⟩ := h.run server ids w
  obtain ⟨r', sent', w'', e', went', hr'⟩ := (hc r _ hr).run server ids w'
  refine ⟨_, sent ++ sent', w'', Session.attempt_thenAlways e e', went.trans went', ?_⟩
  rw [server.exchanges_append, ← List.append_assoc, ← went.service]
  exact hr'

theorem lift_run {p : ExceptT δ Session α} {post : Except ε (Except δ α) → List Exchange → Prop}
    (h : Course xs p fun r => post (.ok r)) : Course xs (ExceptT.lift p.run) post := by
  refine ⟨fun server ids w => ?_⟩
  obtain ⟨r, sent, w', e, went, hr⟩ := h.run server ids w
  exact ⟨.ok r, sent, w', Session.attempt_lift_run e, went, hr⟩

/-! ## Steps of calls and checks -/

theorem freshName_bind {label : String} {f : String → ExceptT ε Session α}
    (h : ∀ u, Course xs (f (resourceName label u)) post) :
    Course xs (ExceptT.lift (Session.freshName label) >>= f) post := by
  refine ⟨fun server ids w => ?_⟩
  obtain ⟨r, sent, w', e, went, hr⟩ := (h (ids w.drawn)).run server ids w.drew
  exact ⟨r, sent, w', (Session.attempt_bind_ok (attempt_freshName label w)).trans e,
    ⟨went.requests, went.service⟩, hr⟩

theorem after {c : Call β} {b : β} {f : β → Call α}
    {post : Except ClientError α → List Exchange → Prop} (h : c.Silent (.ok b))
    (hf : Course xs (f b) post) : Course xs (c >>= f) post := by
  refine ⟨fun server ids w => ?_⟩
  obtain ⟨w', e, n⟩ := h.run server ids w
  obtain ⟨r, sent, w'', e', went, hr⟩ := hf.run server ids w'
  refine ⟨r, sent, w'', (Session.attempt_bind_ok e).trans e', n.went.trans went, ?_⟩
  rw [← n.service]
  exact hr

/-- A method sends its request, and what it comes to is read off the reply. -/
theorem call {m : Method} (hs : m.Sends) {post : Except ClientError m.Result → List Exchange → Prop}
    (h : ∀ reply, post (m.read reply) (xs ++ [⟨m.request, reply⟩])) : Course xs m.call post := by
  refine ⟨fun server ids w => ?_⟩
  obtain ⟨w', e, n⟩ := (m.asks hs).run server ids w
  exact ⟨_, [m.request], w', e, n.went_answered, h _⟩

/-- A method and what follows it: the reply decides whether anything does. -/
theorem call_bind {m : Method} (hs : m.Sends) {f : m.Result → Call α}
    {post : Except ClientError α → List Exchange → Prop}
    (hok : ∀ a reply, m.read reply = .ok a → Course (xs ++ [⟨m.request, reply⟩]) (f a) post)
    (herr : ∀ e reply, m.read reply = .error e → post (.error e) (xs ++ [⟨m.request, reply⟩])) :
    Course xs (m.call >>= f) post := by
  have hc : Course xs m.call fun r ys => ∃ reply, m.read reply = r ∧ ys = xs ++ [⟨m.request, reply⟩] :=
    .call hs fun reply => ⟨reply, rfl, rfl⟩
  refine hc.bind ?_ ?_
  · rintro a _ ⟨reply, hr, rfl⟩
    exact hok a reply hr
  · rintro e _ ⟨reply, hr, rfl⟩
    exact herr e reply hr

theorem ofCall {c : Call α} {post : Except CheckError α → List Exchange → Prop}
    (h : Course xs c fun r => post (r.mapError .client)) : Course xs (Checking.ofCall c) post := by
  refine ⟨fun server ids w => ?_⟩
  obtain ⟨r, sent, w', e, went, hr⟩ := h.run server ids w
  exact ⟨_, sent, w', attempt_ofCall e, went, hr⟩

theorem ensure {condition : Bool} {message : String}
    {post : Except CheckError Unit → List Exchange → Prop} (h : ∀ r, post r xs) :
    Course xs (Checking.ensure condition message) post := by
  cases condition with
  | true => exact .pure (h _)
  | false => exact .throw (h _)

end Course

end CloudRehearsal
