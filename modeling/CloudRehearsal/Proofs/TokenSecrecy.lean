import CloudRehearsal.Proofs.Attempt
import CloudRehearsal.Proofs.ErrorClasses
import CloudRehearsal.Run
import Mathlib.Data.List.Forall2

/-!
What can be learned of a token from the sample that signs a user in: its first characters, and nothing
else (`Sample.tokens_stay_secret`).

This is about two runs side by side, against servers that issue different tokens and otherwise answer
alike (`Counterparts`). A pair of sessions is `Twin` when its runs leave worlds that can be told apart by
the tokens they sent alone. There is one rule for each step that calls are made of; a call that handles
no token is its own twin, so only the two requests that do are looked at in both runs.
-/
namespace CloudRehearsal

variable {σ τ α β γ δ : Type}

/-! ## Servers that issue different tokens -/

/-- Replies of the same kind, with outputs that are related. -/
inductive Reply.Alike (rel : α → β → Prop) : Reply α → Reply β → Prop
  | output {a : α} {b : β} (h : rel a b) : Alike rel (.output a) (.output b)
  | error (fault : Fault) : Alike rel (.error fault) (.error fault)
  | lost (call : LostCall) : Alike rel (.lost call) (.lost call)

/-- Responses to a sign-in that differ at most in their tokens; when there is an access token, it is `t`
in one and `u` in the other. -/
inductive SignIn.Alike (t u : String) : SignIn → SignIn → Prop
  | unanswered (challenge : Option String) : Alike t u ⟨challenge, none⟩ ⟨challenge, none⟩
  | withheld (challenge id refresh id' refresh' : Option String) :
    Alike t u ⟨challenge, some ⟨none, id, refresh⟩⟩ ⟨challenge, some ⟨none, id', refresh'⟩⟩
  | issued (challenge id refresh id' refresh' : Option String) :
    Alike t u ⟨challenge, some ⟨some t, id, refresh⟩⟩ ⟨challenge, some ⟨some u, id', refresh'⟩⟩

/-- The operations that issue tokens, or ask for the user of one. -/
def Operation.handlesTokens (op : Operation) : Bool := op == .adminInitiateAuth || op == .getUser

/-- The same request, but for the token whose user is asked for. -/
inductive Request.SameBut (t u : String) : Request → Request → Prop
  | same (r : Request) : SameBut t u r r
  | getUser : SameBut t u (.getUser t) (.getUser u)

/-- Two servers side by side, each with an access token of its own. -/
structure Counterparts (σ τ : Type) where
  left : Server σ
  right : Server τ
  leftToken : String
  rightToken : String
  /-- The states from which they answer alike. -/
  alike : σ → τ → Prop

namespace Counterparts

variable (c : Counterparts σ τ)

/-- Requests are answered alike, and the states after them are alike again. -/
def AnswersAlike (r r' : Request) (rel : r.Output → r'.Output → Prop) : Prop :=
  ∀ s s', c.alike s s' → (Reply.Alike rel (c.left.answer r s).1 (c.right.answer r' s').1 ∧
    c.alike (c.left.answer r s).2 (c.right.answer r' s').2)

/-- The servers answer the same to every request that is about no token. Their answers to a sign-in
differ at most in the tokens, and one treats its token as the other does its own. -/
structure Faithful : Prop where
  others : ∀ r : Request, r.operation.handlesTokens = false → c.AnswersAlike r r Eq
  signIn : ∀ pool client username password : String,
    c.AnswersAlike (.adminInitiateAuth pool client username password)
      (.adminInitiateAuth pool client username password) (SignIn.Alike c.leftToken c.rightToken)
  getUser : c.AnswersAlike (.getUser c.leftToken) (.getUser c.rightToken) (Eq : String → String → Prop)

/-! ## Twin sessions -/

/-- Worlds that differ in the tokens that were sent alone. -/
structure Worlds (w : World σ) (w' : World τ) : Prop where
  service : c.alike w.service w'.service
  drawn : w.drawn = w'.drawn
  requests : List.Forall₂ (Request.SameBut c.leftToken c.rightToken) w.requests w'.requests
  events : w.events = w'.events

variable {c} in
theorem Worlds.start {s : σ} {s' : τ} (h : c.alike s s') : c.Worlds (.start s) (.start s') :=
  ⟨h, rfl, .nil, rfl⟩

variable (ids : Nat → Uuid)

/-- Run side by side, the sessions come to results that are related. -/
def Twin (rel : α → β → Prop) (p : Session α) (q : Session β) : Prop :=
  ∀ w w', c.Worlds w w' → (rel (p.run c.left ids w).1 (q.run c.right ids w').1 ∧
    c.Worlds (p.run c.left ids w).2 (q.run c.right ids w').2)

variable {c ids} {rel : α → β → Prop} {rel' : γ → δ → Prop}

namespace Twin

theorem pure {a : α} {b : β} (h : rel a b) : c.Twin ids rel (Pure.pure a) (Pure.pure b) :=
  fun _ _ hw => ⟨h, hw⟩

theorem bind {p : Session α} {q : Session β} {f : α → Session γ} {g : β → Session δ}
    (h : c.Twin ids rel p q) (hf : ∀ a b, rel a b → c.Twin ids rel' (f a) (g b)) :
    c.Twin ids rel' (p >>= f) (q >>= g) := by
  intro w w' hw
  obtain ⟨hr, hw⟩ := h w w' hw
  rw [Session.run_bind, Session.run_bind]
  exact hf _ _ hr _ _ hw

theorem note (event : Log.Event) : c.Twin ids Eq (Session.note event) (Session.note event) := by
  intro w w' hw
  rw [Session.run_note, Session.run_note]
  refine ⟨rfl, hw.service, hw.drawn, hw.requests, ?_⟩
  simp only [hw.events]

theorem draw : c.Twin ids Eq Session.draw Session.draw := by
  intro w w' hw
  rw [Session.run_draw, Session.run_draw]
  have hids : ids w.drawn = ids w'.drawn := congrArg ids hw.drawn
  have hdrawn : w.drawn + 1 = w'.drawn + 1 := congrArg (· + 1) hw.drawn
  exact ⟨hids, hw.service, hdrawn, hw.requests, hw.events⟩

end Twin

/-- Results that are related, or the same error. -/
inductive Outcomes {ε : Type} (rel : α → β → Prop) : Except ε α → Except ε β → Prop
  | ok {a : α} {b : β} (h : rel a b) : Outcomes rel (.ok a) (.ok b)
  | error (e : ε) : Outcomes rel (.error e) (.error e)

theorem Outcomes.eq {ε : Type} {r r' : Except ε α} (h : Outcomes Eq r r') : r = r' := by
  cases h with
  | ok h => rw [h]
  | error e => rfl

theorem Twin.send {r r' : Request} {rel : r.Output → r'.Output → Prop}
    (hsame : r.SameBut c.leftToken c.rightToken r') (he : r.emptyMember? = none)
    (h : c.AnswersAlike r r' rel) :
    c.Twin ids (Outcomes rel) (Session.send r) (Session.send r') := by
  have he' : r'.emptyMember? = none := by cases hsame <;> exact he
  intro w w' hw
  obtain ⟨hreply, hafter⟩ := h _ _ hw.service
  rw [Session.run_send _ _ _ he, Session.run_send _ _ _ he']
  refine ⟨?_, hafter, hw.drawn, List.rel_append hw.requests (.cons hsame .nil), hw.events⟩
  generalize (c.left.answer r w.service).1 = reply at hreply ⊢
  generalize (c.right.answer r' w'.service).1 = reply' at hreply ⊢
  cases hreply with
  | output h => exact .ok h
  | error fault => exact .error _
  | lost call => exact .error _

/-! ## Twin calls -/

variable (c ids) in
/-- Calls that come to results that are related, or to the same error. -/
def Calls (rel : α → β → Prop) (p : Call α) (q : Call β) : Prop :=
  c.Twin ids (Outcomes rel) p.run q.run

namespace Calls

theorem pure {a : α} {b : β} (h : rel a b) : c.Calls ids rel (Pure.pure a) (Pure.pure b) :=
  Twin.pure (.ok h)

theorem throw (e : ClientError) :
    c.Calls ids rel (MonadExcept.throw e) (MonadExcept.throw e) := Twin.pure (.error e)

theorem bind {p : Call α} {q : Call β} {f : α → Call γ} {g : β → Call δ}
    (h : c.Calls ids rel p q) (hf : ∀ a b, rel a b → c.Calls ids rel' (f a) (g b)) :
    c.Calls ids rel' (p >>= f) (q >>= g) := by
  unfold Calls
  rw [ExceptT.run_bind, ExceptT.run_bind]
  refine Twin.bind h fun r r' hr => ?_
  cases hr with
  | ok h => exact hf _ _ h
  | error e => exact Twin.pure (.error e)

/-- A call that handles no token comes before two that are twins. -/
theorem after {p : Call α} {f : α → Call γ} {g : α → Call δ} (h : c.Calls ids Eq p p)
    (hf : ∀ a, c.Calls ids rel' (f a) (g a)) : c.Calls ids rel' (p >>= f) (p >>= g) := by
  refine h.bind fun a b hab => ?_
  subst hab
  exact hf a

theorem ofSession {p : Session α} (h : c.Twin ids Eq p p) :
    c.Calls ids Eq (Call.ofSession p) (Call.ofSession p) := by
  unfold Calls Call.ofSession
  rw [ExceptT.run_lift, map_eq_pure_bind]
  refine Twin.bind h fun a b hab => ?_
  exact Twin.pure (.ok hab)

theorem note (event : Log.Event) : c.Calls ids Eq (Call.note event) (Call.note event) :=
  ofSession (Twin.note event)

theorem send {r r' : Request} {rel : r.Output → r'.Output → Prop}
    (hsame : r.SameBut c.leftToken c.rightToken r') (he : r.emptyMember? = none)
    (h : c.AnswersAlike r r' rel) (explain : SendError → ClientError) :
    c.Calls ids rel (Call.send r explain) (Call.send r' explain) := by
  refine Twin.bind (Twin.send hsame he h) fun a b hab => ?_
  cases hab with
  | ok h => exact Twin.pure (.ok h)
  | error e => exact Twin.pure (.error _)

theorem mk' (r : Except ClientError α) :
    c.Calls ids Eq (ExceptT.mk (Pure.pure r)) (ExceptT.mk (Pure.pure r)) := by
  cases r with
  | ok a => exact pure rfl
  | error e => exact throw e

theorem required (field : String) (o : Option α) :
    c.Calls ids Eq (Call.required field o) (Call.required field o) := by
  cases o with
  | none => exact throw _
  | some a => exact pure rfl

theorem freshName (label : String) :
    c.Calls ids Eq (Call.ofSession (Session.freshName label))
      (Call.ofSession (Session.freshName label)) := by
  refine ofSession (Twin.bind Twin.draw fun u v huv => ?_)
  subst huv
  exact Twin.pure rfl

theorem step (r : SampleReport) (action detail : String) :
    c.Calls ids Eq (r.step action detail) (r.step action detail) :=
  after (note _) fun _ => pure rfl

end Calls

/-! ## The calls of the sample -/

section

variable (h : c.Faithful)
include h

theorem Calls.other (r : Request) (he : r.emptyMember? = none)
    (hr : r.operation.handlesTokens = false) (explain : SendError → ClientError) :
    c.Calls ids Eq (Call.send r explain) (Call.send r explain) :=
  send (.same r) he (h.others r hr) explain

theorem calls_create (name : String) :
    c.Calls ids Eq (UserPools.create name) (UserPools.create name) := by
  refine .after (.other h (.createUserPool name) rfl rfl _) fun reported => ?_
  refine .after (.required _ _) fun pool => ?_
  exact .after (.note _) fun _ => .pure rfl

theorem calls_createClient (pool name : String) :
    c.Calls ids Eq (UserPools.createClient pool name) (UserPools.createClient pool name) := by
  refine .after (.other h (.createUserPoolClient pool name) rfl rfl _) fun reported => ?_
  exact .required _ _

theorem calls_createUser (pool username password : String) :
    c.Calls ids Eq (UserPools.createUser pool username password)
      (UserPools.createUser pool username password) := by
  refine .after (.note _) fun _ => ?_
  refine .after (.other h (.adminCreateUser pool username password) rfl rfl _) fun reported => ?_
  refine .after (.required _ _) fun created => ?_
  exact .after (.note _) fun _ => .pure rfl

theorem calls_setPassword (pool username password : String) :
    c.Calls ids Eq (UserPools.setPassword pool username password)
      (UserPools.setPassword pool username password) :=
  .other h (.adminSetUserPassword pool username password) rfl rfl _

theorem calls_delete (pool : String) :
    c.Calls ids Eq (UserPools.delete pool) (UserPools.delete pool) :=
  .after (.other h (.deleteUserPool pool) rfl rfl _) fun _ => .note _

/-- A sign-in gives each run its own access token, or the same error to both. -/
theorem calls_authenticate (pool client username password : String) :
    c.Calls ids (fun a b => a.accessToken = c.leftToken ∧ b.accessToken = c.rightToken)
      (UserPools.authenticate pool client username password)
      (UserPools.authenticate pool client username password) := by
  refine .after (.note _) fun _ => ?_
  refine (Calls.send (.same _) rfl (h.signIn pool client username password) _).bind ?_
  intro a b hab
  refine Twin.pure ?_
  cases hab with
  | unanswered challenge =>
    cases challenge with
    | none => exact .error _
    | some challenge => exact .error _
  | withheld challenge =>
    cases challenge with
    | none => exact .error _
    | some challenge => exact .error _
  | issued challenge =>
    cases challenge with
    | none => exact .ok ⟨rfl, rfl⟩
    | some challenge => exact .error _

theorem calls_usernameFor :
    c.Calls ids Eq (UserPools.usernameFor c.leftToken) (UserPools.usernameFor c.rightToken) :=
  .send .getUser rfl h.getUser _

end

end Counterparts

/-! ## The sample -/

theorem AuthTokens.preview_congr {t u : String} (ht : previewLength < t.toList.length)
    (hu : previewLength < u.toList.length)
    (h : t.toList.take previewLength = u.toList.take previewLength) : preview t = preview u := by
  rw [preview_of_long ht, preview_of_long hu, h]

namespace Sample

open Counterparts

section

variable {c : Counterparts σ τ} (h : c.Faithful)
  (hpreview : AuthTokens.preview c.leftToken = AuthTokens.preview c.rightToken) (ids : Nat → Uuid)
include h hpreview

theorem calls_directory : c.Calls ids Eq directory directory := by
  refine .after (.freshName _) fun name => ?_
  refine .after (calls_create h name) fun pool => ?_
  refine .after (.step _ _ _) fun r => ?_
  refine .after (calls_createClient h pool _) fun client => ?_
  refine .after (.step _ _ _) fun r => ?_
  refine .after (calls_createUser h pool _ _) fun username => ?_
  refine .after (.step _ _ _) fun r => ?_
  refine .after (calls_setPassword h pool username _) fun _ => ?_
  refine .after (.step _ _ _) fun r => ?_
  refine (calls_authenticate h pool client username _).bind ?_
  rintro tokens tokens' ⟨ht, ht'⟩
  rw [AuthTokens.accessTokenPreview, AuthTokens.accessTokenPreview, ht, ht', hpreview]
  refine .after (.step _ _ _) fun r => ?_
  refine (calls_usernameFor h).bind ?_
  rintro resolved _ rfl
  refine .after (.step _ _ _) fun r => ?_
  refine .after (calls_delete h pool) fun _ => ?_
  exact .step _ _ _

theorem twin_session {i : Invocation} (hi : i.command = .sample (.one .directory)) :
    c.Twin ids Eq (Run.session i) (Run.session i) := by
  have hconnect : c.Calls ids Eq (Clients.connect i.endpoint) (Clients.connect i.endpoint) :=
    .after (.mk' _) fun clients => .after (.note _) fun _ => .pure rfl
  refine Twin.bind hconnect fun r r' hr => ?_
  cases hr.eq
  cases r with
  | error e => exact Twin.pure rfl
  | ok clients =>
    have hcommand : Run.command clients i.command = Run.samples clients (.one .directory) := by
      rw [hi]
      rfl
    show c.Twin ids Eq (Run.command clients i.command) (Run.command clients i.command)
    rw [hcommand]
    refine Twin.bind (calls_directory h hpreview ids) fun r r' hr => ?_
    cases hr.eq
    cases r with
    | ok report => exact Twin.pure rfl
    | error e => exact Twin.pure rfl

end

/-- **The sample keeps the tokens secret.** In two runs against servers that answer alike but issue
access tokens of their own, which are longer than twelve characters and agree in the first twelve, with
any other tokens beside them or none: the sample comes to the same report or the same error, and sends
the same requests, except that each run asks for the user of its own token. So what the program leaves
behind is the same, in both formats, and the log with it. -/
theorem tokens_stay_secret (c : Counterparts σ τ) (h : c.Faithful)
    (hleft : 12 < c.leftToken.toList.length) (hright : 12 < c.rightToken.toList.length)
    (hstart : c.leftToken.toList.take 12 = c.rightToken.toList.take 12) (ids : Nat → Uuid) {s : σ}
    {s' : τ} (hs : c.alike s s') :
    (Session.attempt directory c.left ids (.start s)).1 =
      (Session.attempt directory c.right ids (.start s')).1 ∧
    List.Forall₂ (Request.SameBut c.leftToken c.rightToken)
      (Session.attempt directory c.left ids (.start s)).2.requests
      (Session.attempt directory c.right ids (.start s')).2.requests ∧
    ∀ (i : Invocation) (env : Environment), i.command = .sample (.one .directory) →
      (i.run env c.left ids s).1 = (i.run env c.right ids s').1 := by
  have hpreview : AuthTokens.preview c.leftToken = AuthTokens.preview c.rightToken :=
    AuthTokens.preview_congr hleft hright hstart
  obtain ⟨hresult, hworlds⟩ := calls_directory h hpreview ids _ _ (Worlds.start hs)
  refine ⟨hresult.eq, hworlds.requests, fun i env hi => ?_⟩
  obtain ⟨hsame, hafter⟩ := twin_session h hpreview ids hi _ _ (Worlds.start hs)
  show Run.transcript env i ((Run.session i).run c.left ids (.start s)).1
      ((Run.session i).run c.left ids (.start s)).2.events =
    Run.transcript env i ((Run.session i).run c.right ids (.start s')).1
      ((Run.session i).run c.right ids (.start s')).2.events
  rw [hsame, hafter.events]

/-- A server of one pool. Whoever signs in gets this access token, and perhaps another beside it. -/
def issuing (token : String) (id : Option String) : Server Unit where
  answer
    | .createUserPool _, s => (.output (some "pool"), s)
    | .createUserPoolClient .., s => (.output (some "client"), s)
    | .adminCreateUser _ username _, s => (.output (some username), s)
    | .adminInitiateAuth .., s => (.output ⟨none, some ⟨some token, id, none⟩⟩, s)
    | .getUser t, s =>
      if t = token then (.output "sample-user", s)
      else (.error (.modeled "NotAuthorizedException" none), s)
    | .adminSetUserPassword .., s | .deleteUserPool _, s => (.output (), s)
    | _, s => (.error (.unmodeled "UnknownOperationException" none), s)

/-- Two such servers. Their tokens differ in the last character alone. -/
def neighbours : Counterparts Unit Unit where
  left := issuing "geheim-köln-1" (some "id")
  right := issuing "geheim-köln-2" none
  leftToken := "geheim-köln-1"
  rightToken := "geheim-köln-2"
  alike _ _ := True

theorem neighbours_faithful : neighbours.Faithful where
  others r hr := by
    intro s s' hs
    have hsame : (neighbours.left.answer r s).1 = (neighbours.right.answer r s').1 := by
      cases r with
      | adminInitiateAuth | getUser => cases hr
      | _ => rfl
    rw [hsame]
    refine ⟨?_, trivial⟩
    generalize (neighbours.right.answer r s').1 = reply
    cases reply with
    | output a => exact .output rfl
    | error fault => exact .error fault
    | lost call => exact .lost call
  signIn _ _ _ _ _ _ _ := ⟨.output (.issued none _ _ _ _), trivial⟩
  getUser _ _ _ := ⟨.output rfl, trivial⟩

/-- The sample succeeds on either server, and its report is the same. -/
theorem neighbours_reported_alike :
    neighbours.Faithful ∧ 12 < neighbours.leftToken.toList.length ∧
      12 < neighbours.rightToken.toList.length ∧
      neighbours.leftToken.toList.take 12 = neighbours.rightToken.toList.take 12 ∧
      neighbours.leftToken ≠ neighbours.rightToken ∧
      ∃ report : SampleReport,
        report.steps.map (·.detail) = ["pool", "client", "sample-user", "sample-user",
          "geheim-köln-...", "sample-user", "pool"] ∧
        (Session.attempt directory neighbours.left (fun _ => 7) (.start ())).1 = .ok report ∧
        (Session.attempt directory neighbours.right (fun _ => 7) (.start ())).1 = .ok report := by
  have hsecret := tokens_stay_secret neighbours neighbours_faithful (by decide) (by decide)
    (by decide) (fun _ => 7) (show neighbours.alike () () from trivial)
  refine ⟨neighbours_faithful, by decide, by decide, by decide, by decide, _, ?_, rfl, ?_⟩
  · rfl
  · exact hsecret.1.symm

end Sample

end CloudRehearsal
