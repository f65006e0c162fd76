import CloudRehearsal.Proofs.ErrorClasses
import CloudRehearsal.Proofs.SuiteRun

/-!
No failure is silent. Three kinds of errors show nothing but words that a service may leave out
(`ClientError.display_eq_empty_iff`), so it takes the mapping of the answers to rule the silent ones out:
words that are missing or empty are replaced by the text of the exception, which is taken not to be empty
(`Server.Worded`).

`OnlyFails P p` says that every failure of `p` is one of `P`, whatever else the server does. There is one
rule for each step of calls and checks, so a call or a check is gone through by its text and not by its
replies, refused requests included.
-/
namespace CloudRehearsal

open Text Checking

variable {σ α β ε δ : Type}

/-! ## Texts of errors -/

namespace ClientError

/-- What is shown of an error ends with the service's own words. -/
theorem message_suffix_display (e : ClientError) : e.message.toList <:+ e.display.toList := by
  cases e with
  | service operation code message =>
    show message.toList <:+ (operation ++ " failed with " ++ code ++ ": " ++ message).toList
    rw [String.toList_append]
    exact List.suffix_append ..
  | dispatch operation message =>
    show message.toList <:+ (operation ++ " request failed: " ++ message).toList
    rw [String.toList_append]
    exact List.suffix_append ..
  | _ => exact List.suffix_rfl

theorem code?_eq_some_iff {e : ClientError} {code : String} :
    e.code? = some code ↔ ∃ operation message, e = .service operation code message := by
  cases e <;> simp [code?]

/-- Only the errors that show nothing but a service's words can show nothing at all. -/
theorem display_eq_empty_iff {e : ClientError} : e.display = "" ↔
    (∃ resource id, e = .alreadyExists resource id "") ∨ (∃ resource id, e = .notFound resource id "") ∨
      ∃ address, e = .notVerified address "" := by
  unfold display
  cases e <;> simp [toString]

/-- The error is shown in words, ends with the service's own, and has a code if it is a service's. -/
structure Speaks (e : ClientError) : Prop where
  shown : e.display ≠ ""
  ends : e.message.toList <:+ e.display.toList
  code : ∀ code, e.code? = some code ↔ ∃ operation message, e = .service operation code message

theorem speaks_of_shown {e : ClientError} (h : e.display ≠ "") : e.Speaks :=
  ⟨h, e.message_suffix_display, fun _ => code?_eq_some_iff⟩

end ClientError

theorem CheckError.display_assertion_ne_empty (message : String) :
    (CheckError.assertion message).display ≠ "" := by
  unfold display
  simp [toString]

/-! ## Answers without words -/

/-- The exceptions with which the server refuses requests have a text by themselves. -/
def Server.Worded (server : Server σ) : Prop :=
  ∀ request s fault x, (server.answer request s).1 = .error fault → fault.exception = some x →
    x.display ≠ ""

/-- The exception of a failure has a text by itself. -/
def SendError.Worded (e : SendError) : Prop :=
  ∀ names x, e.exceptionIn? names = some x → x.display ≠ ""

theorem Server.Worded.result {server : Server σ} (h : server.Worded) {request : Request} {s : σ}
    {e : SendError} (he : (server.answer request s).1.result = .error e) : e.Worded := by
  intro names x hx
  cases hr : (server.answer request s).1 with
  | output a =>
    rw [hr] at he
    cases he
  | error fault =>
    rw [hr] at he
    cases he
    exact h request s fault x hr (SendError.exceptionIn?_service_eq_some_iff.1 hx).1
  | lost call =>
    rw [hr] at he
    cases he
    cases hx

namespace ClientError

/-- Missing and empty words are replaced. -/
theorem wordsOf_ne_empty {x : ServiceException} (h : x.display ≠ "") : wordsOf x ≠ "" := by
  unfold wordsOf
  split
  · split
    · exact h
    · assumption
  · exact h

theorem ofSend_shown (operation : String) (e : SendError) : (ofSend operation e).display ≠ "" := by
  cases e <;> simp [ofSend, display_eq_empty_iff]

theorem ofException_shown {names : List String} {make : String → ClientError} {operation : String}
    {e : SendError} (hmake : ∀ words, (make words).display = words) (he : e.Worded) :
    (ofException names make operation e).display ≠ "" := by
  unfold ofException
  split
  next x hx =>
    rw [hmake]
    exact wordsOf_ne_empty (he names x hx)
  next => exact ofSend_shown _ _

theorem ofSendEmail_shown {source : String} {e : SendError} (he : e.Worded) :
    (ofSendEmail source e).display ≠ "" := by
  unfold ofSendEmail
  split
  next x hx =>
    split
    · exact wordsOf_ne_empty (he _ x hx)
    · simp [display_eq_empty_iff]
  next => exact ofSend_shown _ _

end ClientError

/-! ## Programs by their failures -/

/-- Every failure of the program is one of `P`, whatever the server, if only its exceptions have texts. -/
structure OnlyFails (P : ε → Prop) (p : ExceptT ε Session α) : Prop where
  run : ∀ {σ : Type} {server : Server σ}, server.Worded → ∀ (ids : Nat → Uuid) (w : World σ) (e : ε),
    (Session.attempt p server ids w).1 = .error e → P e

namespace OnlyFails

variable {P : ε → Prop}

theorem pure (a : α) : OnlyFails P (Pure.pure a : ExceptT ε Session α) := ⟨fun _ _ _ _ h => nomatch h⟩

theorem throw {e : ε} (h : P e) : OnlyFails P (MonadExcept.throw e : ExceptT ε Session α) := by
  refine ⟨fun _ ids w e' he => ?_⟩
  cases he
  exact h

theorem lift (s : Session α) : OnlyFails P (ExceptT.lift s : ExceptT ε Session α) := by
  refine ⟨fun _ ids w e h => ?_⟩
  unfold Session.attempt at h
  rw [Program.attempt_lift] at h
  cases h

theorem result {r : Except ε α} (h : ∀ e, r = .error e → P e) :
    OnlyFails P (ExceptT.mk (Pure.pure r)) :=
  ⟨fun _ _ _ e he => h e he⟩

theorem bind {p : ExceptT ε Session α} {f : α → ExceptT ε Session β} (h : OnlyFails P p)
    (hf : ∀ a, OnlyFails P (f a)) : OnlyFails P (p >>= f) := by
  refine ⟨fun {_ server} hw ids w e he => ?_⟩
  rcases hp : Session.attempt p server ids w with ⟨e' | a, w'⟩
  · rw [Session.attempt_bind_error hp] at he
    cases he
    exact h.run hw ids w e (hp ▸ rfl)
  · rw [Session.attempt_bind_ok hp] at he
    exact (hf a).run hw ids w' e he

/-- A clean-up fails the program too, unless the body has failed before. -/
theorem always {body : ExceptT ε Session α} {cleanUp : ExceptT ε Session Unit}
    (h : OnlyFails P body) (hc : OnlyFails P cleanUp) : OnlyFails P (thenAlways body cleanUp) := by
  refine ⟨fun {_ server} hw ids w e he => ?_⟩
  rcases hb : Session.attempt body server ids w with ⟨outcome, w'⟩
  rcases hu : Session.attempt cleanUp server ids w' with ⟨cleaned, w''⟩
  rw [Session.attempt_thenAlways hb hu] at he
  cases outcome with
  | error e' => exact h.run hw ids w e (hb ▸ he)
  | ok a =>
    cases cleaned with
    | error e' =>
      cases he
      exact hc.run hw ids w' e (hu ▸ rfl)
    | ok u => cases he

theorem looked {Q : δ → Prop} {p : ExceptT δ Session β} {f : Except δ β → ExceptT ε Session α}
    (h : OnlyFails Q p) (hf : ∀ r, (∀ e, r = .error e → Q e) → OnlyFails P (f r)) :
    OnlyFails P (ExceptT.lift p.run >>= f) := by
  refine ⟨fun {_ server} hw ids w e he => ?_⟩
  rcases hp : Session.attempt p server ids w with ⟨r, w'⟩
  rw [Session.attempt_bind_ok (Session.attempt_lift_run hp)] at he
  exact (hf r fun e hr => h.run hw ids w e (hp ▸ hr)).run hw ids w' e he

/-- What a request comes to is looked at, sent or not. -/
theorem sent {request : Request} {next : Except SendError request.Output → Session (Except ε α)}
    (h : ∀ r, (∀ e, r = .error e → e.Worded) → OnlyFails P (ExceptT.mk (next r))) :
    OnlyFails P (ExceptT.mk (Session.send request >>= next)) := by
  refine ⟨fun {_ server} hw ids w e he => ?_⟩
  -- a request that is not sent is lost, and a lost one is no service's error
  have hr : ∀ e, ((Session.send request).run server ids w).1 = .error e → e.Worded := by
    intro e he
    cases hm : request.emptyMember? with
    | some member =>
      simp only [Session.send, hm] at he
      cases he
      intro names x hx
      cases hx
    | none =>
      rw [Session.run_send server ids w hm] at he
      exact hw.result he
  refine (h _ hr).run hw ids ((Session.send request).run server ids w).2 e ?_
  rw [← he]
  exact congrArg Prod.fst (Session.run_bind server ids w _ next).symm

/-! ## Steps of calls and checks -/

theorem ofCall {P : CheckError → Prop} {c : Call α} (h : OnlyFails (fun e => P (.client e)) c) :
    OnlyFails P (Checking.ofCall c) := by
  refine ⟨fun {_ server} hw ids w e he => ?_⟩
  rcases hc : Session.attempt c server ids w with ⟨r, w'⟩
  rw [attempt_ofCall hc] at he
  cases r with
  | ok a => cases he
  | error e' =>
    cases he
    exact h.run hw ids w e' (hc ▸ rfl)

theorem ensure {P : CheckError → Prop} {message : String} (h : P (.assertion message))
    (condition : Bool) : OnlyFails P (Checking.ensure condition message) := by
  cases condition with
  | true => exact .pure ()
  | false => exact .throw h

end OnlyFails

/-! ## Calls -/

namespace Call

/-- No failure of the call is silent. -/
abbrev Spoken (c : Call α) : Prop := OnlyFails (fun e => e.display ≠ "") c

theorem spoken_note (event : Log.Event) : (Call.note event).Spoken := .lift _

theorem spoken_send {request : Request} {explain : SendError → ClientError}
    (h : ∀ e, e.Worded → (explain e).display ≠ "") : (Call.send request explain).Spoken := by
  refine .sent fun r hr => ?_
  cases r with
  | ok output => exact .pure output
  | error e => exact .throw (h e (hr e rfl))

theorem spoken_sendPlain (request : Request) : (Call.sendPlain request).Spoken :=
  spoken_send fun e _ => ClientError.ofSend_shown _ e

theorem spoken_sendExcept {request : Request} {names : List String} {make : String → ClientError}
    {operation : String} (hmake : ∀ words, (make words).display = words) :
    (Call.send request (ClientError.ofException names make operation)).Spoken :=
  spoken_send fun _ he => ClientError.ofException_shown hmake he

theorem spoken_required (field : String) (o : Option α) : (Call.required field o).Spoken := by
  cases o with
  | some a => exact .pure a
  | none => exact .throw (by simp [ClientError.display_eq_empty_iff])

theorem spoken_checked (check : Except ConfigError Unit) : (Call.checked check).Spoken := by
  cases check with
  | ok u => exact .pure ()
  | error e => exact .throw (by simp [ClientError.display_eq_empty_iff])

/-- A member that must be there is noted and given. -/
theorem spoken_reported (field : String) (event : String → Log.Event) (o : Option String) :
    Spoken (do
      let reported ← Call.required field o
      Call.note (event reported)
      return reported) :=
  (spoken_required field o).bind fun reported => (spoken_note (event reported)).bind fun _ => .pure _

end Call

theorem UserPools.tokens_shown {signIn : SignIn} {e : ClientError} (h : tokens signIn = .error e) :
    e.display ≠ "" := by
  unfold tokens at h
  repeat' split at h
  all_goals cases h
  all_goals simp [ClientError.display_eq_empty_iff]

namespace Method

open Call ClientError

theorem spoken_getBytes (bucket key : String) : (Buckets.getBytes bucket key).Spoken := by
  refine (spoken_sendExcept fun _ => rfl).bind fun body => ?_
  cases body with
  | complete bytes => exact .pure bytes
  | broken => exact .throw (by simp [display_eq_empty_iff])

theorem spoken_getText (bucket key : String) : (Buckets.getText bucket key).Spoken := by
  refine (spoken_getBytes bucket key).bind fun bytes => ?_
  split
  · exact .pure _
  · exact .throw (by simp [display_eq_empty_iff])

/-- Of the question for a bucket one failure is an answer. -/
theorem spoken_contains (bucket : String) : (Buckets.contains bucket).Spoken := by
  refine .sent fun r _ => ?_
  cases r with
  | ok o => exact .pure true
  | error e =>
    dsimp only
    split
    · exact .pure false
    · exact .throw (ofSend_shown _ _)

/-- **No method fails silently**, refused or not. -/
theorem spoken (m : Method) : m.call.Spoken := by
  cases m with
  | createTable | createUser =>
    exact (spoken_note _).bind fun _ =>
      (spoken_sendExcept fun _ => rfl).bind fun o => spoken_reported _ _ o
  | describeTable => exact (spoken_sendExcept fun _ => rfl).bind fun o => spoken_required _ o
  | createBucket =>
    exact (spoken_note _).bind fun _ => (spoken_sendExcept fun _ => rfl).bind fun _ => spoken_note _
  | sendMail mail =>
    exact (spoken_checked _).bind fun _ => (spoken_note _).bind fun _ =>
      spoken_send fun e he => ofSendEmail_shown he
  | createTopic | createPool => exact (spoken_sendPlain _).bind fun o => spoken_reported _ _ o
  | createClient => exact (spoken_sendPlain _).bind fun o => spoken_required _ o
  | publish =>
    exact (spoken_note _).bind fun _ => (spoken_sendPlain _).bind fun o => spoken_required _ o
  | authenticate =>
    exact (spoken_note _).bind fun _ => (spoken_sendPlain _).bind fun _ =>
      .result fun _ he => UserPools.tokens_shown he
  | containsBucket bucket => exact spoken_contains bucket
  | getBytes bucket key => exact spoken_getBytes bucket key
  | getText bucket key => exact spoken_getText bucket key
  | putItem | putText => exact (spoken_note _).bind fun _ => spoken_sendPlain _
  | listTables | verifiedAddresses | deleteObject | setPassword | usernameFor =>
    exact spoken_sendPlain _
  | listBuckets | listTopics | deliveryAttempts | getItem =>
    exact (spoken_sendPlain _).bind fun _ => .pure _
  | deleteTable | deleteBucket | deleteTopic | verify | deletePool =>
    exact (spoken_sendPlain _).bind fun _ => spoken_note _

end Method

/-! ## Checks -/

namespace Check

/-- No failure of the check is silent. -/
abbrev Spoken (p : Checking α) : Prop := OnlyFails (fun e => e.display ≠ "") p

theorem spoken_method (m : Method) : Spoken (ofCall m.call) := .ofCall m.spoken

theorem spoken_assertion (message : String) : Spoken (throw (.assertion message) : Checking α) :=
  .throw (CheckError.display_assertion_ne_empty message)

theorem spoken_ensure (condition : Bool) (message : String) : Spoken (ensure condition message) :=
  .ensure (CheckError.display_assertion_ne_empty message) condition

theorem spoken_tableAssertions (name created : String) : Spoken (tableAssertions name created) := by
  refine (spoken_ensure _ _).bind fun _ => ?_
  refine .looked (Method.createTable name "id").spoken fun second hs => ?_
  split
  · exact spoken_assertion _
  · exact spoken_ensure _ _
  · exact .throw (hs _ rfl)

theorem spoken_objectAssertions (bucket key content : String) :
    Spoken (objectAssertions bucket key content) :=
  (spoken_method (.putText bucket key content)).bind fun _ =>
    (spoken_method (.getBytes bucket key)).bind fun _ => spoken_ensure _ _

theorem spoken_removeBucket (bucket key : String) : Spoken (removeBucket bucket key) :=
  .ofCall ((Method.deleteObject bucket key).spoken.bind fun _ => (Method.deleteBucket bucket).spoken)

theorem spoken_authenticationAssertions (pool : String) : Spoken (authenticationAssertions pool) :=
  (spoken_method (.createClient pool _)).bind fun client =>
    (spoken_method (.createUser pool _ _)).bind fun _ =>
      (spoken_method (.setPassword pool _ _)).bind fun _ =>
        (spoken_method (.authenticate pool client _ _)).bind fun tokens =>
          (spoken_method (.usernameFor tokens.accessToken)).bind fun _ => spoken_ensure _ _

theorem spoken_of_mem_suite {clients : Clients} {c : Check} (h : c ∈ suite clients) :
    Spoken c.body := by
  simp only [suite, List.mem_cons, List.not_mem_nil, or_false] at h
  -- the seven of them in order, each gone through step by step
  rcases h with rfl | rfl | rfl | rfl | rfl | rfl | rfl
  · exact (OnlyFails.lift _).bind fun name =>
      (spoken_method (.createTable name "id")).bind fun created =>
        (spoken_tableAssertions name created).always (spoken_method (.deleteTable name))
  · exact (OnlyFails.lift _).bind fun bucket =>
      (spoken_method (.createBucket clients.buckets bucket)).bind fun _ =>
        (spoken_objectAssertions bucket _ _).always (spoken_removeBucket bucket _)
  · exact (OnlyFails.lift _).bind fun bucket =>
      (spoken_method (.createBucket clients.buckets bucket)).bind fun _ =>
        (spoken_method (.containsBucket bucket)).bind fun _ =>
          (spoken_ensure _ _).bind fun _ =>
            (spoken_method (.deleteBucket bucket)).bind fun _ =>
              (spoken_method (.containsBucket bucket)).bind fun _ => spoken_ensure _ _
  · refine (OnlyFails.lift _).bind fun name => ?_
    refine .looked (Method.sendMail _).spoken fun sent hs => ?_
    split
    · exact spoken_assertion _
    · exact spoken_ensure _ _
    · exact .throw (hs _ rfl)
  · exact (OnlyFails.lift _).bind fun name =>
      (spoken_method .deliveryAttempts).bind fun _ =>
        (spoken_method (.verify _)).bind fun _ =>
          (spoken_method (.sendMail _)).bind fun _ =>
            (spoken_method .deliveryAttempts).bind fun _ => spoken_ensure _ _
  · exact (OnlyFails.lift _).bind fun name =>
      (spoken_method (.createTopic name)).bind fun arn =>
        ((spoken_method (.publish arn none _)).bind fun _ => spoken_ensure _ _).always
          (spoken_method (.deleteTopic arn))
  · exact (OnlyFails.lift _).bind fun name =>
      (spoken_method (.createPool name)).bind fun pool =>
        (spoken_authenticationAssertions pool).always (spoken_method (.deletePool pool))

theorem message_of_failed {name : String} {r : Except CheckError Unit}
    (h : (CheckOutcome.ofResult name r).passed = false) :
    ∃ e, r = .error e ∧ (CheckOutcome.ofResult name r).message = some e.display := by
  cases r with
  | ok u => cases h
  | error e => exact ⟨e, rfl, rfl⟩

/-- What has failed in a run of all checks has a message, and not an empty one. -/
theorem message_of_mem_runAll {clients : Clients} {server : Server σ} (hw : server.Worded)
    {ids : Nat → Uuid} {w : World σ} {o : CheckOutcome}
    (ho : o ∈ ((runAll clients).run server ids w).1) (hfailed : o.passed = false) :
    ∃ message, o.message = some message ∧ message ≠ "" := by
  obtain ⟨w', e, -⟩ := run_mapM_outcome server ids (suite clients) w
  have hrun : ((runAll clients).run server ids w).1 = _ := congrArg Prod.fst e
  rw [hrun, List.mem_iff_getElem?] at ho
  obtain ⟨i, hi⟩ := ho
  rw [List.getElem?_zipWith] at hi
  cases hc : (suite clients)[i]? with
  | none => simp [hc] at hi
  | some c =>
    rw [hc, getElem?_inTurn server ids hc w] at hi
    obtain rfl := Option.some.inj hi
    obtain ⟨e, he, hm⟩ := message_of_failed hfailed
    exact ⟨_, hm, (spoken_of_mem_suite (List.mem_of_getElem? hc)).run hw ids _ e he⟩

/-! ## All of them -/

/-- **No failure is silent.** Whatever the server does, if only its exceptions have texts, an error of a
method is shown in words, which end with the error's own message, and has a code exactly when it is a
service's error that is not told apart. So a check that has failed says why, although a name that is
taken, a resource that is missing and a sender who is not verified are shown by their messages alone. -/
theorem failures_speak (clients : Clients) (server : Server σ) (ids : Nat → Uuid) (w : World σ)
    (hw : server.Worded) :
    (∀ (m : Method) (e : ClientError),
      (Session.attempt m.call server ids w).1 = .error e → e.Speaks) ∧
    (∀ o ∈ ((runAll clients).run server ids w).1, o.passed = false →
      ∃ message, o.message = some message ∧ message ≠ "") ∧
    (∀ resource id message, (ClientError.alreadyExists resource id message).display = message ∧
      (ClientError.notFound resource id message).display = message) ∧
    (∀ address message, (ClientError.notVerified address message).display = message) := by
  refine ⟨fun m e he => ?_, fun o ho hf => message_of_mem_runAll hw ho hf, fun _ _ _ => ⟨rfl, rfl⟩,
    fun _ _ => rfl⟩
  exact ClientError.speaks_of_shown (m.spoken.run hw ids w e he)

/-- A server that refuses everything in the same empty words. -/
def wordless : Server Unit := Method.refusing (.modeled "ResourceInUseException" (some ""))

/-- The outcomes of all checks on it. -/
def wordlessOutcomes : List CheckOutcome :=
  ((runAll Trial.loopback).run wordless (fun _ => 0) (.start ())).1

/-- A creation that it refuses is an error with words, and every check fails with some. -/
theorem wordless_refusals_speak :
    wordless.Worded ∧
      (Session.attempt (Tables.create "users" "id") wordless (fun _ => 0) (.start ())).1 =
        .error (.alreadyExists "Table" "users" "ResourceInUseException: ") ∧
      (ClientError.alreadyExists "Table" "users" "ResourceInUseException: ").Speaks ∧
      wordlessOutcomes.map (·.passed) = List.replicate 7 false ∧
      ∀ o ∈ wordlessOutcomes, ∃ message, o.message = some message ∧ message ≠ "" := by
  have hw : wordless.Worded := by
    rintro request s _ _ ⟨⟩ ⟨⟩
    exact (by decide : "ResourceInUseException: " ≠ "")
  obtain ⟨hcalls, hchecks, -⟩ := failures_speak Trial.loopback wordless (fun _ => 0) (.start ()) hw
  have hfailed : wordlessOutcomes.map (·.passed) = List.replicate 7 false := by rfl
  refine ⟨hw, rfl, hcalls (.createTable "users" "id") _ rfl, hfailed, fun o ho => hchecks o ho ?_⟩
  have hmem : o.passed ∈ List.replicate 7 false := hfailed ▸ List.mem_map_of_mem ho
  exact List.eq_of_mem_replicate hmem

end Check

end CloudRehearsal
