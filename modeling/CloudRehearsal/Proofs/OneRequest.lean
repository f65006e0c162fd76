import CloudRehearsal.Proofs.Methods
import CloudRehearsal.Proofs.Utf8Text

/-!
One call, one request: a method sends its own operation once, with the arguments of the caller and the
members that are always the same, and nothing is rewritten on the way (`Method.sends_one_request`).
What the service replies does not matter to it.

The exceptions send nothing at all: mail that fails its check, and an empty bucket or key
(`Method.Refused`).
-/
namespace CloudRehearsal

open Text

/-! ## Calls that send nothing -/

namespace Call

variable {α β : Type}

theorem Silent.bind_error {c : Call α} {e : ClientError} (h : c.Silent (.error e)) (f : α → Call β) :
    (c >>= f).Silent (.error e) := by
  refine ⟨fun server ids w => ?_⟩
  obtain ⟨w', he, n⟩ := h.run server ids w
  exact ⟨w', Session.attempt_bind_error he, n⟩

theorem Silent.after {c : Call α} {a : α} {f : α → Call β} {result : Except ClientError β}
    (h : c.Silent (.ok a)) (hf : (f a).Silent result) : (c >>= f).Silent result := by
  refine ⟨fun server ids w => ?_⟩
  obtain ⟨w', he, n⟩ := h.run server ids w
  obtain ⟨w'', he', n'⟩ := hf.run server ids w'
  exact ⟨w'', (Session.attempt_bind_ok he).trans he', n.trans n'⟩

theorem send_eq_lost {request : Request} {member : String}
    (h : request.emptyMember? = some member) :
    ∃ l, Session.send request = pure (.error (.lost l)) := by
  simp only [Session.send, h]
  exact ⟨_, rfl⟩

theorem send_silent {request : Request} {member : String}
    (h : request.emptyMember? = some member) (explain : SendError → ClientError) :
    ∃ e, (Call.send request explain).Silent (.error e) := by
  obtain ⟨l, hl⟩ := send_eq_lost h
  refine ⟨explain (.lost l), ?_⟩
  unfold Call.send
  rw [hl, pure_bind]
  exact .mk' _

end Call

namespace Method

/-- There is nothing to send: mail fails its check, or a bucket or key is empty. -/
def Refused : Method → Prop
  | sendMail m => m.check ≠ .ok ()
  | createBucket _ bucket | containsBucket bucket | deleteBucket bucket => bucket = ""
  | putText bucket key _ | getBytes bucket key | getText bucket key | deleteObject bucket key =>
    bucket = "" ∨ key = ""
  | _ => False

/-- A request for an object is not built when a part of its address is empty. -/
theorem emptyMember?_of_object {r : Request} {bucket key : String}
    (hr : r.emptyMember? =
      if bucket = "" then some "bucket" else if key = "" then some "key" else none)
    (h : bucket = "" ∨ key = "") : ∃ member, r.emptyMember? = some member := by
  by_cases hb : bucket = ""
  · exact ⟨"bucket", by rw [hr, if_pos hb]⟩
  · have hk : key = "" := h.resolve_left hb
    exact ⟨"key", by rw [hr, if_neg hb, if_pos hk]⟩

theorem sends_of_not_refused {m : Method} (h : ¬ m.Refused) : m.Sends := by
  cases m with
  | sendMail mail => exact Classical.not_not.1 h
  | createBucket b bucket | containsBucket bucket | deleteBucket bucket => exact if_neg h
  | putText bucket key content | getBytes bucket key | getText bucket key | deleteObject bucket key =>
    obtain ⟨hb, hk⟩ := not_or.1 h
    exact (if_neg hb).trans (if_neg hk)
  | _ => rfl

/-- **A method that is refused sends nothing** and fails. -/
theorem silent {m : Method} (h : m.Refused) : ∃ e, m.call.Silent (.error e) := by
  cases m with
  | sendMail mail =>
    cases hc : mail.check with
    | ok u => exact absurd hc h
    | error e =>
      have hs : (Call.checked mail.check).Silent (.error (.config e)) := by
        rw [hc]
        exact .throw _
      exact ⟨_, hs.bind_error _⟩
  | createBucket b bucket =>
    have hm : (createBucket b bucket).request.emptyMember? = some "bucket" := if_pos h
    obtain ⟨e, hs⟩ := Call.send_silent hm (.ofCreateBucket bucket)
    exact ⟨e, .after (.note _) (hs.bind_error _)⟩
  | containsBucket bucket =>
    have hm : (Request.headBucket bucket).emptyMember? = some "bucket" := if_pos h
    obtain ⟨l, hl⟩ := Call.send_eq_lost hm
    refine ⟨.ofSend Operation.headBucket.name (.lost l), ?_⟩
    show (Buckets.contains bucket).Silent _
    unfold Buckets.contains
    rw [hl, pure_bind]
    exact .mk' _
  | deleteBucket bucket =>
    have hm : (deleteBucket bucket).request.emptyMember? = some "bucket" := if_pos h
    obtain ⟨e, hs⟩ := Call.send_silent hm (.ofSend Operation.deleteBucket.name)
    exact ⟨e, hs.bind_error _⟩
  | putText bucket key content =>
    obtain ⟨member, hm⟩ := emptyMember?_of_object (r := (putText bucket key content).request) rfl h
    obtain ⟨e, hs⟩ := Call.send_silent hm (.ofSend Operation.putObject.name)
    exact ⟨e, .after (.note _) hs⟩
  | getBytes bucket key =>
    obtain ⟨member, hm⟩ := emptyMember?_of_object (r := (getBytes bucket key).request) rfl h
    obtain ⟨e, hs⟩ := Call.send_silent hm (.ofGetObject bucket key)
    exact ⟨e, hs.bind_error _⟩
  | getText bucket key =>
    obtain ⟨member, hm⟩ := emptyMember?_of_object (r := (getText bucket key).request) rfl h
    obtain ⟨e, hs⟩ := Call.send_silent hm (.ofGetObject bucket key)
    exact ⟨e, (hs.bind_error _).bind_error _⟩
  | deleteObject bucket key =>
    obtain ⟨member, hm⟩ := emptyMember?_of_object (r := (deleteObject bucket key).request) rfl h
    exact Call.send_silent hm (.ofSend Operation.deleteObject.name)
  | _ => exact h.elim

/-! ## What is sent -/

/-- The operation that a method stands for. -/
def operation : Method → Operation
  | createTable .. => .createTable
  | describeTable .. => .describeTable
  | listTables => .listTables
  | putItem .. => .putItem
  | getItem .. => .getItem
  | deleteTable .. => .deleteTable
  | createBucket .. => .createBucket
  | containsBucket .. => .headBucket
  | listBuckets => .listBuckets
  | putText .. => .putObject
  | getBytes .. | getText .. => .getObject
  | deleteObject .. => .deleteObject
  | deleteBucket .. => .deleteBucket
  | createTopic .. => .createTopic
  | listTopics => .listTopics
  | publish .. => .publish
  | deleteTopic .. => .deleteTopic
  | verify .. => .verifyEmailIdentity
  | verifiedAddresses => .listVerifiedEmailAddresses
  | sendMail .. => .sendEmail
  | deliveryAttempts => .getSendStatistics
  | createPool .. => .createUserPool
  | createClient .. => .createUserPoolClient
  | createUser .. => .adminCreateUser
  | setPassword .. => .adminSetUserPassword
  | authenticate .. => .adminInitiateAuth
  | usernameFor .. => .getUser
  | deletePool .. => .deleteUserPool

/-- An attribute of an item: its name, and its value marked as a string. -/
def pair (name value : String) : String × Json := (name, .record [("S", .text value)])

/-- The members that carry what the caller gives. -/
def given : Method → List (String × Json)
  | createTable table key =>
    [("TableName", .text table),
      ("AttributeDefinitions",
        .list [.record [("AttributeName", .text key), ("AttributeType", .text "S")]]),
      ("KeySchema", .list [.record [("AttributeName", .text key), ("KeyType", .text "HASH")]])]
  | describeTable table | deleteTable table => [("TableName", .text table)]
  | putItem table key keyValue name value =>
    -- one map: an attribute with the name of the key takes the place of the key
    let item := if name = key then [pair key value] else [pair key keyValue, pair name value]
    [("TableName", .text table), ("Item", .record item)]
  | getItem table key keyValue _ => [("TableName", .text table), ("Key", .record [pair key keyValue])]
  | createBucket b bucket =>
    ("Bucket", .text bucket) ::
      if b.region = "us-east-1" then [] else [("LocationConstraint", .text b.region)]
  | containsBucket bucket | deleteBucket bucket => [("Bucket", .text bucket)]
  | putText bucket key content =>
    [("Bucket", .text bucket), ("Key", .text key), ("Body", .text content)]
  | getBytes bucket key | getText bucket key | deleteObject bucket key =>
    [("Bucket", .text bucket), ("Key", .text key)]
  | createTopic name => [("Name", .text name)]
  | publish arn none message => [("TopicArn", .text arn), ("Message", .text message)]
  | publish arn (some subject) message =>
    [("TopicArn", .text arn), ("Subject", .text subject), ("Message", .text message)]
  | deleteTopic arn => [("TopicArn", .text arn)]
  | verify address => [("EmailAddress", .text address)]
  | sendMail m =>
    [("Source", .text m.source),
      ("Destination", .record [("ToAddresses", .list (m.recipients.map .text))]),
      ("Message", .record [("Subject", .record [("Data", .text m.subject)]),
        ("Body", .record [("Text", .record [("Data", .text m.body)])])])]
  | createPool name => [("PoolName", .text name)]
  | createClient pool name => [("UserPoolId", .text pool), ("ClientName", .text name)]
  | createUser pool username temporaryPassword =>
    [("UserPoolId", .text pool), ("Username", .text username),
      ("TemporaryPassword", .text temporaryPassword)]
  | setPassword pool username password =>
    [("UserPoolId", .text pool), ("Username", .text username), ("Password", .text password)]
  | authenticate pool client username password =>
    [("UserPoolId", .text pool), ("ClientId", .text client),
      ("AuthParameters", .record [("USERNAME", .text username), ("PASSWORD", .text password)])]
  | usernameFor accessToken => [("AccessToken", .text accessToken)]
  | deletePool pool => [("UserPoolId", .text pool)]
  | listTables | listBuckets | listTopics | verifiedAddresses | deliveryAttempts => []

end Method

/-- The members that an operation has whatever the caller gives. -/
def Operation.fixed : Operation → List (String × Json)
  | .createTable => [("BillingMode", .text "PAY_PER_REQUEST")]
  | .createUserPoolClient =>
    [("ExplicitAuthFlows",
      .list [.text "ALLOW_ADMIN_USER_PASSWORD_AUTH", .text "ALLOW_REFRESH_TOKEN_AUTH"])]
  | .adminCreateUser => [("MessageAction", .text "SUPPRESS")]
  | .adminSetUserPassword => [("Permanent", .bool true)]
  | .adminInitiateAuth => [("AuthFlow", .text "ADMIN_USER_PASSWORD_AUTH")]
  | _ => []

/-- The bytes of the object that a request brings. -/
def Request.body? : Request → Option (List UInt8)
  | putObject _ _ body => some body
  | _ => none

namespace Method

/-- The text of the object that a method uploads. -/
def content? : Method → Option String
  | putText _ _ content => some content
  | _ => none

/-- The request is the method's: its operation, what the caller has given and what is always the same.
An object goes as the bytes of its text. -/
structure Carries (m : Method) (r : Request) : Prop where
  operation : r.operation = m.operation
  members : r.members.Perm (m.given ++ m.operation.fixed)
  body : r.body? = m.content?.map fun content => content.toUTF8.data.toList

theorem members_putItem (table key keyValue name value : String) :
    (putItem table key keyValue name value).request.members =
      (putItem table key keyValue name value).given := by
  by_cases h : name = key
  · simp [Request.members, Request.attributes, given, pair, Tables.item_eq, h]
  · simp [Request.members, Request.attributes, given, pair, Tables.item_eq, h]

theorem members_createBucket (b : Buckets) (bucket : String) :
    (createBucket b bucket).request.members = (createBucket b bucket).given := by
  by_cases h : b.region = "us-east-1"
  · simp [Request.members, given, Buckets.locationConstraint, Endpoint.defaultRegion, h]
  · simp [Request.members, given, Buckets.locationConstraint, Endpoint.defaultRegion, h]

theorem carries_request (m : Method) : m.Carries m.request := by
  cases m with
  | putItem table key keyValue name value =>
    have hm := members_putItem table key keyValue name value
    exact ⟨rfl, .of_eq (hm.trans (List.append_nil _).symm), rfl⟩
  | createBucket b bucket =>
    have hm := members_createBucket b bucket
    exact ⟨rfl, .of_eq (hm.trans (List.append_nil _).symm), rfl⟩
  | putText bucket key content =>
    refine ⟨rfl, ?_, congrArg some (Utf8.bytes_eq content)⟩
    rw [request, Request.members, Utf8.lenient_bytes]
    exact .refl _
  | publish arn subject message =>
    cases subject with
    | none => exact ⟨rfl, .refl _, rfl⟩
    | some subject => exact ⟨rfl, .refl _, rfl⟩
  | authenticate pool client username password =>
    exact ⟨rfl, ((List.Perm.swap _ _ _).cons _).cons _, rfl⟩
  | _ => exact ⟨rfl, .refl _, rfl⟩

/-- **One call, one request.** Whatever the server is and whatever it replies, a method that is not
refused sends one request, and the request carries what the caller has given. A method sends nothing
exactly when it is refused; it then fails, and the server has not noticed. -/
theorem sends_one_request {σ : Type} (m : Method) (server : Server σ) (ids : Nat → Uuid)
    (w : World σ) :
    ((Session.attempt m.call server ids w).2.requests = w.requests ↔ m.Refused) ∧
    (¬ m.Refused → ∃ r, m.Carries r ∧
      (Session.attempt m.call server ids w).2.requests = w.requests ++ [r] ∧
      (Session.attempt m.call server ids w).2.service = (server.answer r w.service).2) ∧
    (m.Refused → (Session.attempt m.call server ids w).2.service = w.service ∧
      ∃ e, (Session.attempt m.call server ids w).1 = .error e) := by
  by_cases h : m.Refused
  · obtain ⟨e, hs⟩ := silent h
    obtain ⟨w', he, n⟩ := hs.run server ids w
    rw [he]
    exact ⟨iff_of_true n.requests h, fun hn => absurd h hn, fun _ => ⟨n.service, e, rfl⟩⟩
  · obtain ⟨w', he, n⟩ := (m.asks (sends_of_not_refused h)).run server ids w
    have hr : w'.requests = w.requests ++ [m.request] := n.requests
    rw [he]
    refine ⟨iff_of_false ?_ h, fun _ => ⟨m.request, m.carries_request, hr, n.service⟩,
      fun hr => absurd hr h⟩
    rw [hr]
    simp

end Method

end CloudRehearsal
