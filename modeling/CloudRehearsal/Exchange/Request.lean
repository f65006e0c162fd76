import CloudRehearsal.Exchange.Operation
import CloudRehearsal.Json.Value
import CloudRehearsal.Text.Utf8

/-!
Requests to the services and what a successful response holds.

A request carries the members that vary; `Request.members` gives all of them by their names, with
those that are always the same. `Request.Output` is the type of what comes back, reduced to what is
looked at: a member that may be missing is optional, and a required one reads as empty.
-/
namespace CloudRehearsal

open Text

/-- The value of an attribute of an item: a string, or of a type that is not read. -/
inductive Attribute where
  | text (s : String)
  | other
  deriving DecidableEq, Repr

/-- The attributes of an item by name. -/
abbrev Item := List (String × Attribute)

/-- The string attributes of an item to be written, one for each name. -/
abbrev TextItem := List (String × String)

namespace TextItem

/-- Sets an attribute, in place of one of the same name. -/
def set (item : TextItem) (name value : String) : TextItem :=
  if item.any (·.1 == name) then item.map fun p => if p.1 == name then (name, value) else p
  else item ++ [(name, value)]

end TextItem

/-- The bytes of an object, or a body that breaks off on the way. -/
inductive Body where
  | complete (bytes : List UInt8)
  | broken
  deriving DecidableEq, Repr

/-- The tokens of a response to a sign-in, each as far as it is there. -/
structure SignInResult where
  accessToken : Option String
  idToken : Option String
  refreshToken : Option String
  deriving DecidableEq, Repr

/-- The response to a sign-in. -/
structure SignIn where
  challenge : Option String
  result : Option SignInResult
  deriving DecidableEq, Repr

/-- A request to a service. -/
inductive Request where
  | createTable (table key : String)
  | describeTable (table : String)
  | listTables
  | putItem (table : String) (item : TextItem)
  | getItem (table : String) (key : TextItem)
  | deleteTable (table : String)
  | createBucket (bucket : String) (locationConstraint : Option String)
  | headBucket (bucket : String)
  | listBuckets
  | putObject (bucket key : String) (body : List UInt8)
  | getObject (bucket key : String)
  | deleteObject (bucket key : String)
  | deleteBucket (bucket : String)
  | createTopic (topic : String)
  | listTopics
  | publish (topicArn : String) (subject : Option String) (message : String)
  | deleteTopic (topicArn : String)
  | verifyEmailIdentity (address : String)
  | listVerifiedEmailAddresses
  | sendEmail (source : String) (recipients : List String) (subject body : String)
  | getSendStatistics
  | createUserPool (pool : String)
  | createUserPoolClient (poolId client : String)
  | adminCreateUser (poolId username temporaryPassword : String)
  | adminSetUserPassword (poolId username password : String)
  | adminInitiateAuth (poolId clientId username password : String)
  | getUser (accessToken : String)
  | deleteUserPool (poolId : String)
  deriving DecidableEq, Repr

namespace Request

/-- The operation that a request asks for. -/
def operation : Request → Operation
  | createTable .. => .createTable
  | describeTable .. => .describeTable
  | listTables => .listTables
  | putItem .. => .putItem
  | getItem .. => .getItem
  | deleteTable .. => .deleteTable
  | createBucket .. => .createBucket
  | headBucket .. => .headBucket
  | listBuckets => .listBuckets
  | putObject .. => .putObject
  | getObject .. => .getObject
  | deleteObject .. => .deleteObject
  | deleteBucket .. => .deleteBucket
  | createTopic .. => .createTopic
  | listTopics => .listTopics
  | publish .. => .publish
  | deleteTopic .. => .deleteTopic
  | verifyEmailIdentity .. => .verifyEmailIdentity
  | listVerifiedEmailAddresses => .listVerifiedEmailAddresses
  | sendEmail .. => .sendEmail
  | getSendStatistics => .getSendStatistics
  | createUserPool .. => .createUserPool
  | createUserPoolClient .. => .createUserPoolClient
  | adminCreateUser .. => .adminCreateUser
  | adminSetUserPassword .. => .adminSetUserPassword
  | adminInitiateAuth .. => .adminInitiateAuth
  | getUser .. => .getUser
  | deleteUserPool .. => .deleteUserPool

/-- What a successful response holds. -/
@[reducible]
def Output : Request → Type
  -- the name of the table, the topic's or pool's or client's identifier, or the user
  | createTable .. | describeTable .. => Option String
  | createTopic .. | publish .. => Option String
  | createUserPool .. | createUserPoolClient .. | adminCreateUser .. => Option String
  -- lists of names, addresses or attempts
  | listTables | listVerifiedEmailAddresses => List String
  | listBuckets | listTopics => List (Option String)
  | getSendStatistics => List Int64
  -- required members
  | sendEmail .. | getUser .. => String
  | getItem .. => Option Item
  | getObject .. => Body
  | adminInitiateAuth .. => SignIn
  | _ => Unit

/-! ## Members -/

/-- The attributes of an item, each marked as a string. -/
def attributes (item : TextItem) : Json :=
  .record (item.map fun (name, value) => (name, .record [("S", .text value)]))

/-- The members of a request by name. A body is given as the text that its bytes spell. -/
def members : Request → List (String × Json)
  | createTable table key =>
    [("TableName", .text table),
      ("AttributeDefinitions",
        .list [.record [("AttributeName", .text key), ("AttributeType", .text "S")]]),
      ("KeySchema", .list [.record [("AttributeName", .text key), ("KeyType", .text "HASH")]]),
      ("BillingMode", .text "PAY_PER_REQUEST")]
  | describeTable table | deleteTable table => [("TableName", .text table)]
  | listTables | listBuckets | listTopics | listVerifiedEmailAddresses | getSendStatistics => []
  | putItem table item => [("TableName", .text table), ("Item", attributes item)]
  | getItem table key => [("TableName", .text table), ("Key", attributes key)]
  | createBucket bucket location =>
    ("Bucket", .text bucket) :: location.toList.map fun l => ("LocationConstraint", .text l)
  | headBucket bucket | deleteBucket bucket => [("Bucket", .text bucket)]
  | putObject bucket key body =>
    [("Bucket", .text bucket), ("Key", .text key), ("Body", .text (Utf8.lenient body))]
  | getObject bucket key | deleteObject bucket key => [("Bucket", .text bucket), ("Key", .text key)]
  | createTopic topic => [("Name", .text topic)]
  | publish arn subject message =>
    ("TopicArn", .text arn) :: (subject.toList.map fun s => ("Subject", .text s))
      ++ [("Message", .text message)]
  | deleteTopic arn => [("TopicArn", .text arn)]
  | verifyEmailIdentity address => [("EmailAddress", .text address)]
  | sendEmail source recipients subject body =>
    [("Source", .text source),
      ("Destination", .record [("ToAddresses", .list (recipients.map .text))]),
      ("Message", .record [("Subject", .record [("Data", .text subject)]),
        ("Body", .record [("Text", .record [("Data", .text body)])])])]
  | createUserPool pool => [("PoolName", .text pool)]
  | createUserPoolClient pool client =>
    [("UserPoolId", .text pool), ("ClientName", .text client),
      ("ExplicitAuthFlows", .list
        [.text "ALLOW_ADMIN_USER_PASSWORD_AUTH", .text "ALLOW_REFRESH_TOKEN_AUTH"])]
  | adminCreateUser pool username password =>
    [("UserPoolId", .text pool), ("Username", .text username),
      ("TemporaryPassword", .text password), ("MessageAction", .text "SUPPRESS")]
  | adminSetUserPassword pool username password =>
    [("UserPoolId", .text pool), ("Username", .text username), ("Password", .text password),
      ("Permanent", .bool true)]
  | adminInitiateAuth pool client username password =>
    [("UserPoolId", .text pool), ("ClientId", .text client),
      ("AuthFlow", .text "ADMIN_USER_PASSWORD_AUTH"),
      ("AuthParameters", .record [("USERNAME", .text username), ("PASSWORD", .text password)])]
  | getUser token => [("AccessToken", .text token)]
  | deleteUserPool pool => [("UserPoolId", .text pool)]

/-- The member that keeps a request from being sent: a bucket or key of an object store that is
empty. -/
def emptyMember? : Request → Option String
  | createBucket bucket _ | headBucket bucket | deleteBucket bucket =>
    if bucket = "" then some "bucket" else none
  | putObject bucket key _ | getObject bucket key | deleteObject bucket key =>
    if bucket = "" then some "bucket" else if key = "" then some "key" else none
  | _ => none

end Request

end CloudRehearsal
