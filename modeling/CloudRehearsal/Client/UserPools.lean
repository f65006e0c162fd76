import CloudRehearsal.AuthTokens
import CloudRehearsal.Client.Call

/-!
Pools of users who sign in with a password. A user is created with a password for the time being,
gets a permanent one, and then signs in without a challenge. Every function sends one request.
-/
namespace CloudRehearsal.UserPools

/-- An event of this client. -/
def event (level : Log.Level) (message : String) (fields : List Log.Field) : Log.Event :=
  ⟨level, "localmock::logic::user_pool", message, fields⟩

/-- Creates a pool; gives its identifier. -/
def create (name : String) : Call String := do
  let reported ← Call.sendPlain (.createUserPool name)
  let pool ← Call.required "UserPool.Id" reported
  Call.note (event .info "Created user pool" [.plain "pool" pool, .quoted "name" name])
  return pool

/-- Creates a client of a pool that may sign users in by their passwords; gives its identifier. -/
def createClient (pool name : String) : Call String := do
  let reported ← Call.sendPlain (.createUserPoolClient pool name)
  Call.required "UserPoolClient.ClientId" reported

/-- Creates a user without telling them; gives the name that the service reports. -/
def createUser (pool username temporaryPassword : String) : Call String := do
  Call.note (event .debug "AdminCreateUser" [.quoted "pool" pool, .quoted "username" username])
  let reported ← Call.send (.adminCreateUser pool username temporaryPassword)
    (ClientError.ofAdminCreateUser username)
  let created ← Call.required "User.Username" reported
  Call.note (event .info "Created user" [.quoted "pool" pool, .plain "username" created])
  return created

/-- Gives a user a permanent password. -/
def setPassword (pool username password : String) : Call Unit :=
  Call.sendPlain (.adminSetUserPassword pool username password)

/-- The tokens of a response to a sign-in. A challenge counts before any tokens. -/
def tokens (signIn : SignIn) : Except ClientError AuthTokens :=
  match signIn.challenge, signIn.result with
  | some challenge, _ => .error (.challengeRequired challenge)
  | none, none => .error (.missingField "AuthenticationResult")
  | none, some result =>
    match result.accessToken with
    | none => .error (.missingField "AuthenticationResult.AccessToken")
    | some accessToken => .ok ⟨accessToken, result.idToken, result.refreshToken⟩

/-- Signs a user in. -/
def authenticate (pool client username password : String) : Call AuthTokens := do
  Call.note (event .debug "AdminInitiateAuth" [.quoted "pool" pool, .quoted "username" username])
  let signIn : SignIn ← Call.sendPlain (.adminInitiateAuth pool client username password)
  ExceptT.mk (pure (tokens signIn))

/-- The user to whom an access token was issued. -/
def usernameFor (accessToken : String) : Call String := Call.sendPlain (.getUser accessToken)

/-- Deletes a pool. -/
def delete (pool : String) : Call Unit := do
  Call.sendPlain (.deleteUserPool pool)
  Call.note (event .info "Deleted user pool" [.quoted "pool" pool])

end CloudRehearsal.UserPools
