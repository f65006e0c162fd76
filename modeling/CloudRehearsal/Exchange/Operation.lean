/-!
The operations that are asked of the services.
-/
namespace CloudRehearsal

/-- An operation of a service. -/
inductive Operation where
  | createTable | describeTable | listTables | putItem | getItem | deleteTable
  | createBucket | headBucket | listBuckets | putObject | getObject | deleteObject | deleteBucket
  | createTopic | listTopics | publish | deleteTopic
  | verifyEmailIdentity | listVerifiedEmailAddresses | sendEmail | getSendStatistics
  | createUserPool | createUserPoolClient | adminCreateUser | adminSetUserPassword
  | adminInitiateAuth | getUser | deleteUserPool
  deriving DecidableEq, Repr

namespace Operation

/-- The provider's name of an operation. -/
def name : Operation → String
  | .createTable => "CreateTable"
  | .describeTable => "DescribeTable"
  | .listTables => "ListTables"
  | .putItem => "PutItem"
  | .getItem => "GetItem"
  | .deleteTable => "DeleteTable"
  | .createBucket => "CreateBucket"
  | .headBucket => "HeadBucket"
  | .listBuckets => "ListBuckets"
  | .putObject => "PutObject"
  | .getObject => "GetObject"
  | .deleteObject => "DeleteObject"
  | .deleteBucket => "DeleteBucket"
  | .createTopic => "CreateTopic"
  | .listTopics => "ListTopics"
  | .publish => "Publish"
  | .deleteTopic => "DeleteTopic"
  | .verifyEmailIdentity => "VerifyEmailIdentity"
  | .listVerifiedEmailAddresses => "ListVerifiedEmailAddresses"
  | .sendEmail => "SendEmail"
  | .getSendStatistics => "GetSendStatistics"
  | .createUserPool => "CreateUserPool"
  | .createUserPoolClient => "CreateUserPoolClient"
  | .adminCreateUser => "AdminCreateUser"
  | .adminSetUserPassword => "AdminSetUserPassword"
  | .adminInitiateAuth => "AdminInitiateAuth"
  | .getUser => "GetUser"
  | .deleteUserPool => "DeleteUserPool"

end Operation

end CloudRehearsal
