import CloudRehearsal.Proofs.Exchanges

/-!
When calls and checks succeed. `Succeeds` says which conversations a program comes through with which
result: all of these, on every server that holds them, and no others. There is one rule for each step
that calls and checks are made of, and a rule never asks what happens after a failure.

A server holds a conversation if it would reply so (`Server.Answers`), be the requests sent or not. What
decides whether a check passes can so be written down as one list.

What is sent when something fails is another matter: a program without a clean-up sends its requests up
to the first that fails (`Scripted`).
-/
namespace CloudRehearsal

open Checking

variable {σ α β ε : Type}

namespace Server

variable (server : Server σ)

/-- Sent these requests one after the other, the server gives these replies. -/
def Answers : List Exchange → σ → Prop
  | [], _ => True
  | x :: xs, s => (server.answer x.request s).1 = x.reply ∧ Answers xs (server.answer x.request s).2

theorem answers_append (xs ys : List Exchange) (s : σ) :
    server.Answers (xs ++ ys) s ↔
      server.Answers xs s ∧ server.Answers ys (server.after (xs.map (·.request)) s) := by
  induction xs generalizing s with
  | nil => simp [Answers, after]
  | cons x xs ih => exact (and_congr_right fun _ => ih _).trans and_assoc.symm

end Server

/-! ## Results that tell the response -/

namespace Method

open Call (expected)

/-- The response by which a method comes to a result, where only one will do. -/
def response? : (m : Method) → m.Result → Option m.request.Output
  | createTable .., a | describeTable .., a | createTopic .., a | publish .., a => some (some a)
  | createPool .., a | createClient .., a | createUser .., a => some (some a)
  | getBytes .., bytes => some (.complete bytes)
  | authenticate .., t => some ⟨none, some ⟨some t.accessToken, t.idToken, t.refreshToken⟩⟩
  | listTables, a | verifiedAddresses, a => some a
  | sendMail _, a | usernameFor _, a => some a
  | putItem .., a | deleteTable .., a | createBucket .., a | putText .., a => some a
  | deleteObject .., a | deleteBucket .., a | deleteTopic .., a | verify .., a => some a
  | setPassword .., a | deletePool .., a => some a
  | _, _ => none

theorem expected_eq_ok_iff {field : String} {o : Option α} {a : α} :
    expected field o = .ok a ↔ o = some a := by
  cases o <;> simp [expected]

theorem bytesOf_eq_ok_iff {body : Body} {bytes : List UInt8} :
    bytesOf body = .ok bytes ↔ body = .complete bytes := by
  cases body <;> simp [bytesOf]

/-- A sign-in gives tokens when it asks for nothing more and holds an access token, and then it gives
them as they are. -/
theorem tokens_eq_ok_iff {signIn : SignIn} {t : AuthTokens} :
    UserPools.tokens signIn = .ok t ↔
      signIn = ⟨none, some ⟨some t.accessToken, t.idToken, t.refreshToken⟩⟩ := by
  obtain ⟨access, id, refresh⟩ := t
  obtain ⟨challenge | challenge, result | ⟨token | token, _, _⟩⟩ := signIn <;>
    simp [UserPools.tokens]

theorem take_eq_ok_iff_of_response {m : Method} {a : m.Result} {o : m.request.Output}
    (h : m.response? a = some o) (o' : m.request.Output) : m.take o' = .ok a ↔ o' = o := by
  cases m with
  | createTable | describeTable | createTopic | publish | createPool | createClient | createUser =>
    cases h
    exact expected_eq_ok_iff
  | getBytes =>
    cases h
    exact bytesOf_eq_ok_iff
  | authenticate =>
    cases h
    exact tokens_eq_ok_iff
  | listBuckets | listTopics | getItem | containsBucket | getText | deliveryAttempts => cases h
  | _ =>
    cases h
    exact .of_eq (Except.ok.injEq ..)

/-- A method comes to a result that tells the response exactly on that response. -/
theorem read_eq_ok_iff_of_response {m : Method} {a : m.Result} {o : m.request.Output}
    (h : m.response? a = some o) {reply : Reply m.request.Output} :
    m.read reply = .ok a ↔ reply = .output o := by
  have hm : ∀ bucket, m ≠ containsBucket bucket := by
    rintro bucket rfl
    cases h
  rw [read_eq_ok_iff hm]
  simp [take_eq_ok_iff_of_response h]

end Method

/-! ## Successes -/

/-- The program comes to `a` in every conversation that `talk a` holds of, and in no other. -/
structure Succeeds (p : ExceptT ε Session α) (talk : α → List Exchange → Prop) : Prop where
  only : ∀ {σ : Type} {server : Server σ} {ids : Nat → Uuid} {w w' : World σ} {a : α},
    Session.attempt p server ids w = (.ok a, w') →
      ∃ xs, talk a xs ∧ server.Answers xs w.service ∧ w.Went server (xs.map (·.request)) w'
  whenever : ∀ {σ : Type} {server : Server σ} (ids : Nat → Uuid) {w : World σ} {a : α}
    {xs : List Exchange}, talk a xs → server.Answers xs w.service →
      ∃ w', Session.attempt p server ids w = (.ok a, w') ∧ w.Went server (xs.map (·.request)) w'

namespace Succeeds

variable {talk : α → List Exchange → Prop}

theorem congr {talk' : α → List Exchange → Prop} {p : ExceptT ε Session α} (h : Succeeds p talk)
    (ht : ∀ a xs, talk a xs ↔ talk' a xs) : Succeeds p talk' := by
  obtain rfl : talk = talk' := funext fun a => funext fun xs => propext (ht a xs)
  exact h

theorem pure (a : α) :
    Succeeds (Pure.pure a : ExceptT ε Session α) fun b xs => b = a ∧ xs = [] where
  only {_ server _ w _ _} h := by
    cases h
    exact ⟨[], ⟨rfl, rfl⟩, trivial, .refl server w⟩
  whenever {_ server} _ {w _ _} h _ := by
    obtain ⟨rfl, rfl⟩ := h
    exact ⟨w, rfl, .refl server w⟩

theorem bind {p : ExceptT ε Session α} {f : α → ExceptT ε Session β}
    {next : α → β → List Exchange → Prop} (h : Succeeds p talk) (hf : ∀ a, Succeeds (f a) (next a)) :
    Succeeds (p >>= f) fun b zs => ∃ a xs ys, zs = xs ++ ys ∧ talk a xs ∧ next a b ys where
  only {_ server ids w w'' b} hb := by
    cases hp : Session.attempt p server ids w with
    | mk result w' =>
      cases result with
      | error e =>
        rw [Session.attempt_bind_error hp] at hb
        cases hb
      | ok a =>
        rw [Session.attempt_bind_ok hp] at hb
        obtain ⟨xs, hx, ax, went⟩ := h.only hp
        obtain ⟨ys, hy, ay, went'⟩ := (hf a).only hb
        refine ⟨xs ++ ys, ⟨a, xs, ys, rfl, hx, hy⟩, ?_, ?_⟩
        · exact (server.answers_append xs ys _).2 ⟨ax, went.service ▸ ay⟩
        · rw [List.map_append]
          exact went.trans went'
  whenever {_ server} ids {w b zs} := by
    rintro ⟨a, xs, ys, rfl, hx, hy⟩ ha
    obtain ⟨ax, ay⟩ := (server.answers_append xs ys _).1 ha
    obtain ⟨w', e, went⟩ := h.whenever ids hx ax
    obtain ⟨w'', e', went'⟩ := (hf a).whenever ids hy (went.service ▸ ay)
    refine ⟨w'', (Session.attempt_bind_ok e).trans e', ?_⟩
    rw [List.map_append]
    exact went.trans went'

/-- A body with a clean-up comes to what the two come to one after the other, if they succeed. -/
theorem attempt_thenAlways_eq_ok_iff {body : ExceptT ε Session α} {cleanUp : ExceptT ε Session Unit}
    {server : Server σ} {ids : Nat → Uuid} {w w' : World σ} {a : α} :
    Session.attempt (thenAlways body cleanUp) server ids w = (.ok a, w') ↔
      Session.attempt (do let a ← body; cleanUp; return a) server ids w = (.ok a, w') := by
  cases hb : Session.attempt body server ids w with
  | mk outcome w₁ =>
    cases hc : Session.attempt cleanUp server ids w₁ with
    | mk cleaned w₂ =>
      rw [Session.attempt_thenAlways hb hc]
      cases outcome with
      | error e => rw [Session.attempt_bind_error hb, firstFailure_error]; simp
      | ok b =>
        rw [Session.attempt_bind_ok hb]
        cases cleaned with
        | error e => rw [Session.attempt_bind_error hc]; simp [firstFailure]
        | ok u => rw [Session.attempt_bind_ok hc]; rfl

theorem always {body : ExceptT ε Session α} {cleanUp : ExceptT ε Session Unit}
    {last : Unit → List Exchange → Prop} (h : Succeeds body talk) (hc : Succeeds cleanUp last) :
    Succeeds (thenAlways body cleanUp) fun a zs =>
      ∃ xs ys, zs = xs ++ ys ∧ talk a xs ∧ last () ys := by
  have hseq : Succeeds (do let a ← body; cleanUp; return a) fun a zs =>
      ∃ xs ys, zs = xs ++ ys ∧ talk a xs ∧ last () ys := by
    refine (h.bind fun a => hc.bind fun _ => pure a).congr fun a zs => ⟨?_, ?_⟩
    · rintro ⟨_, xs, _, rfl, hx, _, ys, _, rfl, hy, rfl, rfl⟩
      exact ⟨xs, ys, by rw [List.append_nil], hx, hy⟩
    · rintro ⟨xs, ys, rfl, hx, hy⟩
      exact ⟨a, xs, ys, rfl, hx, (), ys, [], (List.append_nil ys).symm, hy, rfl, rfl⟩
  refine ⟨fun ha => hseq.only (attempt_thenAlways_eq_ok_iff.1 ha), fun ids _ _ _ hx ax => ?_⟩
  obtain ⟨w', e, went⟩ := hseq.whenever ids hx ax
  exact ⟨w', attempt_thenAlways_eq_ok_iff.2 e, went⟩

/-! ## Steps of calls and checks -/

theorem call (m : Method) (hs : m.Sends) :
    Succeeds m.call fun a xs => ∃ reply, m.read reply = .ok a ∧ xs = [⟨m.request, reply⟩] where
  only {_ server ids w w' a} h := by
    obtain ⟨w₁, e, n⟩ := (m.asks hs).run server ids w
    obtain ⟨hr, rfl⟩ := Prod.mk.inj (h.symm.trans e)
    exact ⟨[⟨m.request, _⟩], ⟨_, hr.symm, rfl⟩, ⟨rfl, trivial⟩, n.went_answered⟩
  whenever {_ server} ids {w a xs} := by
    rintro ⟨reply, hr, rfl⟩ ⟨ha, -⟩
    obtain ⟨w', e, n⟩ := (m.asks hs).run server ids w
    exact ⟨w', by rw [e, ha, hr], n.went_answered⟩

theorem ofCall {c : Call α} (h : Succeeds c talk) : Succeeds (Checking.ofCall c) talk where
  only {_ server ids w w' a} ha := by
    cases hc : Session.attempt c server ids w with
    | mk result w₁ =>
      rw [attempt_ofCall hc] at ha
      cases result with
      | error e => cases ha
      | ok b =>
        cases ha
        exact h.only hc
  whenever {_ server} ids {w a xs} hx ax := by
    obtain ⟨w', e, went⟩ := h.whenever ids hx ax
    exact ⟨w', attempt_ofCall e, went⟩

theorem ensure (condition : Bool) (message : String) :
    Succeeds (Checking.ensure condition message) fun _ xs => condition = true ∧ xs = [] := by
  cases condition with
  | true => exact (pure ()).congr fun _ _ => by simp
  | false =>
    refine ⟨fun h => ?_, fun _ _ _ _ h _ => nomatch h.1⟩
    rw [attempt_ensure_false rfl message] at h
    cases h

theorem require {condition : Bool} {message : String} {f : Unit → Checking α}
    {next : α → List Exchange → Prop} (hf : Succeeds (f ()) next) :
    Succeeds (Checking.ensure condition message >>= f) fun b zs => condition = true ∧ next b zs := by
  refine ((ensure condition message).bind fun _ => hf).congr fun b zs => ⟨?_, ?_⟩
  · rintro ⟨_, _, ys, rfl, ⟨hc, rfl⟩, hy⟩
    exact ⟨hc, hy⟩
  · rintro ⟨hc, hz⟩
    exact ⟨(), [], zs, rfl, ⟨hc, rfl⟩, hz⟩

/-- A method as the first step of a check. -/
theorem step (m : Method) (hs : m.Sends) {f : m.Result → Checking α}
    {next : m.Result → α → List Exchange → Prop} (hf : ∀ a, Succeeds (f a) (next a)) :
    Succeeds (Checking.ofCall m.call >>= f) fun b zs =>
      ∃ a reply ys, m.read reply = .ok a ∧ zs = ⟨m.request, reply⟩ :: ys ∧ next a b ys := by
  refine ((call m hs).ofCall.bind hf).congr fun b zs => ⟨?_, ?_⟩
  · rintro ⟨a, _, ys, rfl, ⟨reply, hr, rfl⟩, hy⟩
    exact ⟨a, reply, ys, hr, rfl, hy⟩
  · rintro ⟨a, reply, ys, hr, rfl, hy⟩
    exact ⟨a, _, ys, rfl, ⟨reply, hr, rfl⟩, hy⟩

/-- A method whose result tells what the response was. -/
theorem tell (m : Method) (hs : m.Sends) {told : m.Result → m.request.Output}
    (ht : ∀ a, m.response? a = some (told a)) {f : m.Result → Checking α}
    {next : m.Result → α → List Exchange → Prop} (hf : ∀ a, Succeeds (f a) (next a)) :
    Succeeds (Checking.ofCall m.call >>= f) fun b zs =>
      ∃ a ys, zs = ⟨m.request, .output (told a)⟩ :: ys ∧ next a b ys := by
  refine (step m hs hf).congr fun b zs => ⟨?_, ?_⟩
  · rintro ⟨a, reply, ys, hr, rfl, hy⟩
    obtain rfl := (Method.read_eq_ok_iff_of_response (ht a)).1 hr
    exact ⟨a, ys, rfl, hy⟩
  · rintro ⟨a, ys, rfl, hy⟩
    exact ⟨a, _, ys, (Method.read_eq_ok_iff_of_response (ht a)).2 rfl, rfl, hy⟩

theorem last (m : Method) (hs : m.Sends) {told : m.Result → m.request.Output}
    (ht : ∀ a, m.response? a = some (told a)) :
    Succeeds (Checking.ofCall m.call) fun a zs => zs = [⟨m.request, .output (told a)⟩] := by
  refine (call m hs).ofCall.congr fun a zs => ⟨?_, ?_⟩
  · rintro ⟨reply, hr, rfl⟩
    rw [(Method.read_eq_ok_iff_of_response (ht a)).1 hr]
  · rintro rfl
    exact ⟨_, (Method.read_eq_ok_iff_of_response (ht a)).2 rfl, rfl⟩

theorem of_freshName {label : String} {f : String → Checking α}
    {talk : String → α → List Exchange → Prop}
    (h : ∀ name, name ≠ "" → Succeeds (f name) (talk name)) (server : Server σ) (ids : Nat → Uuid)
    (w : World σ) (a : α) :
    (Session.attempt (ExceptT.lift (Session.freshName label) >>= f) server ids w).1 = .ok a ↔
      ∃ xs, talk (resourceName label (ids w.drawn)) a xs ∧ server.Answers xs w.service := by
  have hf := h _ (resourceName_ne_empty label (ids w.drawn))
  rw [Session.attempt_bind_ok (attempt_freshName label w)]
  constructor
  · intro ha
    obtain ⟨xs, hx, ax, -⟩ := hf.only (Prod.ext ha rfl)
    exact ⟨xs, hx, ax⟩
  · rintro ⟨xs, hx, ax⟩
    obtain ⟨w', e, -⟩ := hf.whenever ids (w := w.drew) hx ax
    rw [e]

end Succeeds

/-! ## What is sent until something fails -/

namespace Server

variable (server : Server σ)

/-- What is sent of these requests, one after the other, if nothing follows on a failure. -/
def untilFailure : List Request → σ → List Request
  | [], _ => []
  | r :: rs, s =>
    match (server.answer r s).1 with
    | .output _ => r :: untilFailure rs (server.answer r s).2
    | _ => [r]

variable {server} {r : Request} {rs : List Request} {s : σ}

theorem untilFailure_of_output {o : r.Output} (h : (server.answer r s).1 = .output o) :
    server.untilFailure (r :: rs) s = r :: server.untilFailure rs (server.answer r s).2 := by
  rw [untilFailure, h]

theorem untilFailure_of_failure (h : ∀ o, (server.answer r s).1 ≠ .output o) :
    server.untilFailure (r :: rs) s = [r] := by
  rw [untilFailure]
  split
  next o ho => exact absurd ho (h o)
  next => rfl

end Server

/-- The program sends these requests one after the other and stops at the first failure. -/
structure Scripted (p : ExceptT ε Session α) (rs : List Request) : Prop where
  run : ∀ {σ : Type} (server : Server σ) (ids : Nat → Uuid) (w : World σ),
    (Session.attempt p server ids w).2.requests = w.requests ++ server.untilFailure rs w.service

namespace Scripted

theorem ensure (condition : Bool) (message : String) :
    Scripted (Checking.ensure condition message) [] := by
  refine ⟨fun server ids w => ?_⟩
  rw [Server.untilFailure, List.append_nil]
  cases condition with
  | true => rw [attempt_ensure_true rfl message]
  | false => rw [attempt_ensure_false rfl message]

/-- A method that makes something of every response goes on after one, and after nothing else. -/
theorem step (m : Method) (hs : m.Sends) (hm : ∀ bucket, m ≠ .containsBucket bucket)
    (ht : ∀ o, ∃ a, m.take o = .ok a) {f : m.Result → Checking α} {rs : List Request}
    (hf : ∀ a, Scripted (f a) rs) : Scripted (Checking.ofCall m.call >>= f) (m.request :: rs) := by
  refine ⟨fun server ids w => ?_⟩
  obtain ⟨w', e, n⟩ := Method.attempt_ofCall hs ids server w
  cases hr : m.read (server.answer m.request w.service).1 with
  | ok a =>
    obtain ⟨o, ho, -⟩ := (Method.read_eq_ok_iff hm).1 hr
    rw [hr] at e
    rw [Session.attempt_bind_ok e, (hf a).run, n.requests, n.service, Server.untilFailure_of_output ho]
    exact List.append_assoc ..
  | error failure =>
    have hfailed (o) : (server.answer m.request w.service).1 ≠ .output o := by
      intro ho
      obtain ⟨a, ha⟩ := ht o
      exact nomatch hr.symm.trans ((Method.read_eq_ok_iff hm).2 ⟨o, ho, ha⟩)
    rw [hr] at e
    rw [Session.attempt_bind_error e, n.requests, Server.untilFailure_of_failure hfailed]
    rfl

theorem of_freshName {label : String} {f : String → Checking α} {script : String → List Request}
    (h : ∀ name, Scripted (f name) (script name)) (server : Server σ) (ids : Nat → Uuid)
    (w : World σ) :
    (Session.attempt (ExceptT.lift (Session.freshName label) >>= f) server ids w).2.requests =
      w.requests ++ server.untilFailure (script (resourceName label (ids w.drawn))) w.service := by
  rw [Session.attempt_bind_ok (attempt_freshName label w), (h _).run]
  rfl

end Scripted

end CloudRehearsal
