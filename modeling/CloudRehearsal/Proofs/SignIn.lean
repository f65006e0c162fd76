import CloudRehearsal.Check.Suite
import CloudRehearsal.Proofs.Passing

/-!
When a user can sign in (`userAuthentication_passes_iff`). The check of users passes in one conversation
only, but for what the service names and issues: each step hands on what the one before it has given, and
a response that lacks what the next step needs ends it.

The response to the sign-in has several parts that may be missing. A challenge counts before the rest,
then that there is no result, then that the result holds no access token.
-/
namespace CloudRehearsal

open Checking

/-! ## What a sign-in comes to -/

namespace UserPools

theorem tokens_eq_challenge_iff {signIn : SignIn} {challenge : String} :
    tokens signIn = .error (.challengeRequired challenge) ↔
      ∃ result, signIn = ⟨some challenge, result⟩ := by
  obtain ⟨asked | asked, result | ⟨access | access, id, refresh⟩⟩ := signIn <;> simp [tokens]

theorem tokens_eq_missing_iff {signIn : SignIn} {field : String} :
    tokens signIn = .error (.missingField field) ↔
      (signIn = ⟨none, none⟩ ∧ field = "AuthenticationResult") ∨
        ∃ id refresh, signIn = ⟨none, some ⟨none, id, refresh⟩⟩ ∧
          field = "AuthenticationResult.AccessToken" := by
  obtain ⟨asked | asked, result | ⟨access | access, id, refresh⟩⟩ := signIn <;>
    simp [tokens, eq_comm]

end UserPools

namespace Method

variable {pool client username password : String}

/-- A failure that only a response can bring about is read off the response. -/
theorem read_authenticate_eq_error_iff {e : ClientError} (hs : ∀ operation code words,
      e ≠ .service operation code words) (hd : ∀ operation report, e ≠ .dispatch operation report)
    {reply : Reply SignIn} :
    (authenticate pool client username password).read reply = .error e ↔
      ∃ signIn, reply = .output signIn ∧ UserPools.tokens signIn = .error e := by
  cases reply with
  | output signIn => simp [read, receive, take, Reply.result]
  | error report => exact iff_of_false (fun h => hs _ _ _ (Except.error.inj h).symm) (by simp)
  | lost call => exact iff_of_false (fun h => hd _ _ (Except.error.inj h).symm) (by simp)

theorem read_authenticate_challenge_iff {challenge : String} {reply : Reply SignIn} :
    (authenticate pool client username password).read reply = .error (.challengeRequired challenge) ↔
      ∃ result, reply = .output ⟨some challenge, result⟩ := by
  refine (read_authenticate_eq_error_iff (by simp) (by simp)).trans ⟨?_, ?_⟩
  · intro ⟨signIn, hreply, h⟩
    obtain ⟨result, hsign⟩ := UserPools.tokens_eq_challenge_iff.1 h
    exact ⟨result, by rw [hreply, hsign]⟩
  · intro ⟨result, hreply⟩
    exact ⟨_, hreply, UserPools.tokens_eq_challenge_iff.2 ⟨result, rfl⟩⟩

/-- Each of the two parts that may be missing has its own name in the error. -/
theorem read_authenticate_missing_iff {field : String} {reply : Reply SignIn} :
    (authenticate pool client username password).read reply = .error (.missingField field) ↔
      (reply = .output ⟨none, none⟩ ∧ field = "AuthenticationResult") ∨
        ∃ idToken refreshToken, reply = .output ⟨none, some ⟨none, idToken, refreshToken⟩⟩ ∧
          field = "AuthenticationResult.AccessToken" := by
  refine (read_authenticate_eq_error_iff (by simp) (by simp)).trans ⟨?_, ?_⟩
  · intro ⟨signIn, hreply, h⟩
    obtain ⟨hsign, hf⟩ | ⟨idToken, refreshToken, hsign, hf⟩ := UserPools.tokens_eq_missing_iff.1 h
    · exact .inl ⟨by rw [hreply, hsign], hf⟩
    · exact .inr ⟨idToken, refreshToken, by rw [hreply, hsign], hf⟩
  · intro h
    obtain ⟨hreply, hf⟩ | ⟨idToken, refreshToken, hreply, hf⟩ := h
    · exact ⟨_, hreply, UserPools.tokens_eq_missing_iff.2 (.inl ⟨rfl, hf⟩)⟩
    · exact ⟨_, hreply, UserPools.tokens_eq_missing_iff.2 (.inr ⟨idToken, refreshToken, rfl, hf⟩)⟩

end Method

/-! ## The check -/

namespace Check

/-- A client and a user of a pool are made; the user gets a permanent password and signs in with it, and
the token is theirs. -/
def signingIn (pool client created : String) (tokens : AuthTokens) : List Exchange :=
  [⟨.createUserPoolClient pool "check-app", .output (some client)⟩,
    ⟨.adminCreateUser pool "check-user" "Temporary-Pass1!", .output (some created)⟩,
    ⟨.adminSetUserPassword pool "check-user" "Permanent-Pass1!", .output ()⟩,
    ⟨.adminInitiateAuth pool client "check-user" "Permanent-Pass1!",
      .output ⟨none, some ⟨some tokens.accessToken, tokens.idToken, tokens.refreshToken⟩⟩⟩,
    ⟨.getUser tokens.accessToken, .output "check-user"⟩]

theorem succeeds_authenticationAssertions (pool : String) :
    Succeeds (authenticationAssertions pool) fun _ xs =>
      ∃ client created tokens, xs = signingIn pool client created tokens := by
  refine (Succeeds.tell (.createClient pool "check-app") rfl (fun _ => rfl) fun client =>
    .tell (.createUser pool "check-user" "Temporary-Pass1!") rfl (fun _ => rfl) fun _ =>
    .tell (.setPassword pool "check-user" "Permanent-Pass1!") rfl (fun _ => rfl) fun _ =>
    .tell (.authenticate pool client "check-user" "Permanent-Pass1!") rfl (fun _ => rfl) fun tokens =>
    .tell (.usernameFor tokens.accessToken) rfl (fun _ => rfl) fun _ =>
    .ensure _ _).congr fun _ xs => ⟨?_, ?_⟩
  · intro ⟨client, _, hx, created, _, hy, _, _, hz, tokens, _, hsign, user, _, hlast, huser, hnil⟩
    refine ⟨client, created, tokens, ?_⟩
    rw [hx, hy, hz, hsign, hlast, eq_of_beq huser, hnil]
    rfl
  · intro ⟨client, created, tokens, hx⟩
    exact ⟨client, _, hx, created, _, rfl, (), _, rfl, tokens, _, rfl, "check-user", _, rfl, rfl, rfl⟩

variable {σ : Type} (server : Server σ) (ids : Nat → Uuid) (w : World σ)

/-- The name of the pool that the check works on. -/
def poolOf (ids : Nat → Uuid) (w : World σ) : String := resourceName "check-pool" (ids w.drawn)

/-- **When a user can sign in.** The check passes exactly when the service names a pool, a client and a
user, takes the password, answers the sign-in without a challenge and with an access token, says that the
token is the user's, and deletes the pool. Of a sign-in the client says that a challenge is asked for if
one is, whatever comes with it; else that the result is missing, or the access token in it; and else it
gives the tokens as they came, those that are absent being absent. -/
theorem userAuthentication_passes_iff :
    ((Session.attempt userAuthentication server ids w).1 = .ok () ↔
      ∃ pool client created tokens, server.Answers
        (⟨.createUserPool (poolOf ids w), .output (some pool)⟩ ::
          signingIn pool client created tokens ++ [⟨.deleteUserPool pool, .output ()⟩]) w.service) ∧
    ∀ pool client username password,
      (∀ challenge, (Session.attempt (UserPools.authenticate pool client username password)
          server ids w).1 = .error (.challengeRequired challenge) ↔
        ∃ result, (server.answer (.adminInitiateAuth pool client username password) w.service).1 =
          .output ⟨some challenge, result⟩) ∧
      (∀ field, (Session.attempt (UserPools.authenticate pool client username password)
          server ids w).1 = .error (.missingField field) ↔
        ((server.answer (.adminInitiateAuth pool client username password) w.service).1 =
            .output ⟨none, none⟩ ∧ field = "AuthenticationResult") ∨
          ∃ idToken refreshToken,
            (server.answer (.adminInitiateAuth pool client username password) w.service).1 =
              .output ⟨none, some ⟨none, idToken, refreshToken⟩⟩ ∧
            field = "AuthenticationResult.AccessToken") ∧
      ∀ tokens, (Session.attempt (UserPools.authenticate pool client username password)
          server ids w).1 = .ok tokens ↔
        (server.answer (.adminInitiateAuth pool client username password) w.service).1 =
          .output ⟨none, some ⟨some tokens.accessToken, tokens.idToken, tokens.refreshToken⟩⟩ := by
  refine ⟨?_, fun pool client username password => ?_⟩
  · refine (Succeeds.of_freshName (fun name _ => .tell (.createPool name) rfl (fun _ => rfl) fun pool =>
      (succeeds_authenticationAssertions pool).always (.last (.deletePool pool) rfl fun _ => rfl))
        server ids w ()).trans ⟨?_, ?_⟩
    · intro ⟨xs, ⟨pool, _, hx, _, _, hy, ⟨client, created, tokens, hwork⟩, hlast⟩, ha⟩
      rw [hx, hy, hwork, hlast] at ha
      exact ⟨pool, client, created, tokens, ha⟩
    · intro ⟨pool, client, created, tokens, ha⟩
      exact ⟨_, ⟨pool, _, rfl, _, _, rfl, ⟨client, created, tokens, rfl⟩, rfl⟩, ha⟩
  · obtain ⟨w', e, -⟩ := ((Method.authenticate pool client username password).asks rfl).run server ids w
    rw [show (Session.attempt (UserPools.authenticate pool client username password) server ids w).1 = _
      from congrArg Prod.fst e]
    exact ⟨fun _ => Method.read_authenticate_challenge_iff,
      fun _ => Method.read_authenticate_missing_iff, fun _ => Method.read_eq_ok_iff_of_response rfl⟩

end Check

end CloudRehearsal
