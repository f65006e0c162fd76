import CloudRehearsal.Client.Buckets
import CloudRehearsal.Client.Mail
import CloudRehearsal.Client.Tables
import CloudRehearsal.Client.Topics
import CloudRehearsal.Client.UserPools
import CloudRehearsal.Proofs.Calls

/-!
Every method of the clients: the call that it makes, the request that goes out, and how the reply is
read. `Method.asks` ties the three together, so what holds of every method can be shown from
`Method.request` and `Method.read`, by cases where the methods differ and without them where not.
-/
namespace CloudRehearsal

open Call (expected)

/-- A method of a client, with its arguments. -/
inductive Method where
  | createTable (table key : String)
  | describeTable (table : String)
  | listTables
  | putItem (table key keyValue name value : String)
  | getItem (table key keyValue name : String)
  | deleteTable (table : String)
  | createBucket (b : Buckets) (bucket : String)
  | containsBucket (bucket : String)
  | listBuckets
  | putText (bucket key content : String)
  | getBytes (bucket key : String)
  | getText (bucket key : String)
  | deleteObject (bucket key : String)
  | deleteBucket (bucket : String)
  | createTopic (name : String)
  | listTopics
  | publish (arn : String) (subject : Option String) (message : String)
  | deleteTopic (arn : String)
  | verify (address : String)
  | verifiedAddresses
  | sendMail (m : EmailMessage)
  | deliveryAttempts
  | createPool (name : String)
  | createClient (pool name : String)
  | createUser (pool username temporaryPassword : String)
  | setPassword (pool username password : String)
  | authenticate (pool client username password : String)
  | usernameFor (accessToken : String)
  | deletePool (pool : String)

namespace Method

/-- What a method gives. -/
@[reducible]
def Result : Method → Type
  | createTable .. | describeTable .. | getText .. | createTopic .. | publish .. => String
  | sendMail .. | createPool .. | createClient .. | createUser .. | usernameFor .. => String
  | listTables | listBuckets | listTopics | verifiedAddresses => List String
  | getItem .. => Option String
  | containsBucket .. => Bool
  | getBytes .. => List UInt8
  | deliveryAttempts => Int64
  | authenticate .. => AuthTokens
  | _ => Unit

/-- The call that a method makes. -/
@[reducible]
def call : (m : Method) → Call m.Result
  | createTable table key => Tables.create table key
  | describeTable table => Tables.describe table
  | listTables => Tables.list
  | putItem table key keyValue name value => Tables.putItem table key keyValue name value
  | getItem table key keyValue name => Tables.getItem table key keyValue name
  | deleteTable table => Tables.delete table
  | createBucket b bucket => b.create bucket
  | containsBucket bucket => Buckets.contains bucket
  | listBuckets => Buckets.list
  | putText bucket key content => Buckets.putText bucket key content
  | getBytes bucket key => Buckets.getBytes bucket key
  | getText bucket key => Buckets.getText bucket key
  | deleteObject bucket key => Buckets.deleteObject bucket key
  | deleteBucket bucket => Buckets.delete bucket
  | createTopic name => Topics.create name
  | listTopics => Topics.list
  | publish arn subject message => Topics.publish arn subject message
  | deleteTopic arn => Topics.delete arn
  | verify address => Mail.verify address
  | verifiedAddresses => Mail.verifiedAddresses
  | sendMail m => Mail.send m
  | deliveryAttempts => Mail.deliveryAttempts
  | createPool name => UserPools.create name
  | createClient pool name => UserPools.createClient pool name
  | createUser pool username password => UserPools.createUser pool username password
  | setPassword pool username password => UserPools.setPassword pool username password
  | authenticate pool client username password =>
    UserPools.authenticate pool client username password
  | usernameFor accessToken => UserPools.usernameFor accessToken
  | deletePool pool => UserPools.delete pool

/-- The request that a method sends. -/
@[reducible]
def request : Method → Request
  | createTable table key => .createTable table key
  | describeTable table => .describeTable table
  | listTables => .listTables
  | putItem table key keyValue name value => .putItem table (Tables.item key keyValue name value)
  | getItem table key keyValue _ => .getItem table [(key, keyValue)]
  | deleteTable table => .deleteTable table
  | createBucket b bucket => .createBucket bucket (Buckets.locationConstraint b.region)
  | containsBucket bucket => .headBucket bucket
  | listBuckets => .listBuckets
  | putText bucket key content => .putObject bucket key (Text.Utf8.bytes content)
  | getBytes bucket key | getText bucket key => .getObject bucket key
  | deleteObject bucket key => .deleteObject bucket key
  | deleteBucket bucket => .deleteBucket bucket
  | createTopic name => .createTopic name
  | listTopics => .listTopics
  | publish arn subject message => .publish arn subject message
  | deleteTopic arn => .deleteTopic arn
  | verify address => .verifyEmailIdentity address
  | verifiedAddresses => .listVerifiedEmailAddresses
  | sendMail m => .sendEmail m.source m.recipients m.subject m.body
  | deliveryAttempts => .getSendStatistics
  | createPool name => .createUserPool name
  | createClient pool name => .createUserPoolClient pool name
  | createUser pool username password => .adminCreateUser pool username password
  | setPassword pool username password => .adminSetUserPassword pool username password
  | authenticate pool client username password => .adminInitiateAuth pool client username password
  | usernameFor accessToken => .getUser accessToken
  | deletePool pool => .deleteUserPool pool

/-! ## Reading replies -/

/-- What a failure of a method means. -/
def explain : Method → SendError → ClientError
  | createTable table _ => .ofCreateTable table
  | describeTable table => .ofDescribeTable table
  | createBucket _ bucket => .ofCreateBucket bucket
  | getBytes bucket key | getText bucket key => .ofGetObject bucket key
  | sendMail m => .ofSendEmail m.source
  | createUser _ username _ => .ofAdminCreateUser username
  | m => .ofSend m.request.operation.name

/-- What a method comes to when its request fails: that the bucket is missing is an answer. -/
def fail : (m : Method) → SendError → Except ClientError m.Result
  | containsBucket bucket, e =>
    match e.exceptionIn? ["NotFound"] with
    | some _ => .ok false
    | none => .error ((containsBucket bucket).explain e)
  | m, e => .error (m.explain e)

theorem fail_eq_error {m : Method} {e : SendError}
    (h : ∀ bucket, m = containsBucket bucket → e.exceptionIn? ["NotFound"] = none) :
    m.fail e = .error (m.explain e) := by
  unfold fail
  split
  next bucket => rw [h bucket rfl]
  next => rfl

/-- The bytes of a body that has come through. -/
def bytesOf : Body → Except ClientError (List UInt8)
  | .complete bytes => .ok bytes
  | .broken => .error (.body "streaming error")

/-- The text that bytes spell. -/
def textOf (bytes : List UInt8) : Except ClientError String :=
  match Text.Utf8.text? bytes with
  | .ok text => .ok text
  | .error fault => .error (.body fault.message)

/-- The string attribute of an item, if there is one. -/
def attributeOf (name : String) (found : Option Item) : Option String :=
  match found.bind (·.lookup name) with
  | some (.text value) => some value
  | _ => none

/-- What a method makes of a successful response. -/
def take : (m : Method) → m.request.Output → Except ClientError m.Result
  | createTable .., o => expected "TableDescription.TableName" o
  | describeTable .., o => expected "Table.TableName" o
  | createTopic .., o => expected "TopicArn" o
  | publish .., o => expected "MessageId" o
  | createPool .., o => expected "UserPool.Id" o
  | createClient .., o => expected "UserPoolClient.ClientId" o
  | createUser .., o => expected "User.Username" o
  | listTables, o | verifiedAddresses, o => .ok o
  | listBuckets, o | listTopics, o => .ok (o.filterMap id)
  | getItem _ _ _ name, o => .ok (attributeOf name o)
  | containsBucket _, _ => .ok true
  | getBytes .., o => bytesOf o
  | getText .., o => bytesOf o >>= textOf
  | deliveryAttempts, o => .ok (Mail.total o)
  | authenticate .., o => UserPools.tokens o
  | sendMail _, o | usernameFor _, o => .ok o
  | putItem .., o | deleteTable .., o | createBucket .., o | putText .., o => .ok o
  | deleteObject .., o | deleteBucket .., o | deleteTopic .., o | verify .., o => .ok o
  | setPassword .., o | deletePool .., o => .ok o

/-- What a method makes of what has come of its request. -/
def receive (m : Method) : Except SendError m.request.Output → Except ClientError m.Result
  | .ok output => m.take output
  | .error e => m.fail e

/-- How a method reads the reply to its request. -/
def read (m : Method) (reply : Reply m.request.Output) : Except ClientError m.Result :=
  m.receive reply.result

/-- A method succeeds on a successful response that holds what it needs, and on nothing else. The
question for a bucket is the exception. -/
theorem read_eq_ok_iff {m : Method} (hm : ∀ bucket, m ≠ containsBucket bucket)
    {reply : Reply m.request.Output} {a : m.Result} :
    m.read reply = .ok a ↔ ∃ o, reply = .output o ∧ m.take o = .ok a := by
  have hfail (e : SendError) : m.fail e ≠ .ok a := by
    rw [fail_eq_error fun bucket h => absurd h (hm bucket)]
    exact fun h => nomatch h
  cases reply with
  | output o => simp [read, receive, Reply.result]
  | error fault => exact iff_of_false (hfail _) (by simp)
  | lost call => exact iff_of_false (hfail _) (by simp)

/-- Whether there is a request to be sent: a message must pass its check, and a bucket or key must
not be empty. -/
def Sends : Method → Prop
  | sendMail m => m.check = .ok ()
  | m => m.request.emptyMember? = none

/-! ## One request -/

/-- A call that sends the method's request and reads the reply in steps of its own. -/
theorem asks_of_steps {m : Method} {steps : Reply m.request.Output → Except ClientError m.Result}
    (h : m.call.Asks m.request steps) (hs : ∀ reply, steps reply = m.read reply) :
    m.call.Asks m.request m.read := by
  rw [← funext hs]
  exact h

theorem reported_silent (field : String) (event : String → Log.Event) (o : Option String) :
    Call.Silent (do
      let created ← Call.required field o
      Call.note (event created)
      return created) (expected field o) := by
  have h := (Call.required_silent field o).bind fun created =>
    (Call.Silent.note (event created)).bind fun _ => Call.Silent.pure created
  cases o <;> exact h

theorem checked_silent {check : Except ConfigError Unit} (h : check = .ok ()) :
    (Call.checked check).Silent (.ok ()) := by
  rw [h]
  exact .pure ()

theorem getBytes_asks {bucket key : String} (h : (Request.getObject bucket key).emptyMember? = none) :
    (Buckets.getBytes bucket key).Asks (.getObject bucket key) fun reply =>
      reply.understood (.ofGetObject bucket key) >>= bytesOf := by
  refine (Call.send_asks h _).bind fun body => ?_
  cases body with
  | complete bytes => exact .pure bytes
  | broken => exact .throw _

theorem getText_asks {bucket key : String} (h : (Request.getObject bucket key).emptyMember? = none) :
    (Buckets.getText bucket key).Asks (.getObject bucket key) fun reply =>
      reply.understood (.ofGetObject bucket key) >>= bytesOf >>= textOf := by
  refine (getBytes_asks h).bind fun bytes => ?_
  unfold textOf
  cases Text.Utf8.text? bytes with
  | ok text => exact .pure text
  | error fault => exact .throw _

/-- Asking for a bucket is no ordinary step: one of the failures is an answer. -/
theorem contains_asks {bucket : String} (h : (Request.headBucket bucket).emptyMember? = none) :
    (Buckets.contains bucket).Asks (.headBucket bucket) (containsBucket bucket).read := by
  refine Call.asks_of_send h (containsBucket bucket).receive fun r => ?_
  cases r with
  | ok o => rfl
  | error e =>
    show _ = pure ((containsBucket bucket).fail e)
    simp only [fail]
    cases e.exceptionIn? ["NotFound"] <;> rfl

/-- **A method sends one request**, and what it comes to is read off the reply. -/
theorem asks (m : Method) (h : m.Sends) : m.call.Asks m.request m.read := by
  cases m with
  | createTable table key =>
    refine asks_of_steps (.after (.note _) ((Call.send_asks h _).bind fun o => reported_silent _ _ o)) ?_
    rintro (o | e | l) <;> rfl
  | describeTable table =>
    refine asks_of_steps ((Call.send_asks h _).bind fun o => Call.required_silent _ o) ?_
    rintro (o | e | l) <;> rfl
  | createTopic name =>
    refine asks_of_steps ((Call.sendPlain_asks h).bind fun o => reported_silent _ _ o) ?_
    rintro (o | e | l) <;> rfl
  | publish arn subject message =>
    refine asks_of_steps
      (.after (.note _) ((Call.sendPlain_asks h).bind fun o => Call.required_silent _ o)) ?_
    rintro (o | e | l) <;> rfl
  | createPool name =>
    refine asks_of_steps ((Call.sendPlain_asks h).bind fun o => reported_silent _ _ o) ?_
    rintro (o | e | l) <;> rfl
  | createClient pool name =>
    refine asks_of_steps ((Call.sendPlain_asks h).bind fun o => Call.required_silent _ o) ?_
    rintro (o | e | l) <;> rfl
  | createUser pool username password =>
    refine asks_of_steps (.after (.note _) ((Call.send_asks h _).bind fun o => reported_silent _ _ o)) ?_
    rintro (o | e | l) <;> rfl
  | listTables | verifiedAddresses | deleteObject | setPassword | usernameFor =>
    refine asks_of_steps (Call.sendPlain_asks h) ?_
    rintro (o | e | l) <;> rfl
  | listBuckets | listTopics | deliveryAttempts =>
    refine asks_of_steps ((Call.sendPlain_asks h).bind fun o => .pure _) ?_
    rintro (o | e | l) <;> rfl
  | getItem table key keyValue name =>
    refine asks_of_steps ((Call.sendPlain_asks h).bind fun o => .pure _) ?_
    rintro (o | e | l) <;> rfl
  | deleteTable | deleteBucket | deleteTopic | verify | deletePool =>
    refine asks_of_steps ((Call.sendPlain_asks h).bind fun _ => .note _) ?_
    rintro (o | e | l) <;> rfl
  | putItem | putText =>
    refine asks_of_steps (.after (.note _) (Call.sendPlain_asks h)) ?_
    rintro (o | e | l) <;> rfl
  | createBucket b bucket =>
    refine asks_of_steps (.after (.note _) ((Call.send_asks h _).bind fun _ => .note _)) ?_
    rintro (o | e | l) <;> rfl
  | containsBucket bucket => exact contains_asks h
  | getBytes bucket key =>
    refine asks_of_steps (getBytes_asks h) ?_
    rintro (o | e | l) <;> rfl
  | getText bucket key =>
    refine asks_of_steps (getText_asks h) ?_
    rintro (o | e | l) <;> rfl
  | sendMail m =>
    refine asks_of_steps (.after (checked_silent h) (.after (.note _) (Call.send_asks rfl _))) ?_
    rintro (o | e | l) <;> rfl
  | authenticate pool client username password =>
    refine asks_of_steps (.after (.note _) ((Call.sendPlain_asks h).bind fun o => .mk' _)) ?_
    rintro (o | e | l) <;> rfl

end Method

end CloudRehearsal
