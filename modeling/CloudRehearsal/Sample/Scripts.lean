import CloudRehearsal.Client.Clients
import CloudRehearsal.Client.Mail
import CloudRehearsal.Client.Tables
import CloudRehearsal.Client.Topics
import CloudRehearsal.Client.UserPools
import CloudRehearsal.Sample.Report

/-!
The samples, one for each service. Each is a straight line of calls: create something under a fresh
name, use it once, and take it away again. The first call that fails ends the sample.
-/
namespace CloudRehearsal.Sample

/-- A bucket with one object. -/
def storage (buckets : Buckets) : Call SampleReport := do
  let key := "hello.txt"
  let bucket ← Call.ofSession (Session.freshName "sample-bucket")
  let r := SampleReport.empty .storage
  buckets.create bucket
  let r ← r.step "create_bucket" bucket
  let names ← Buckets.list
  let r ← r.step "list_buckets" s!"{names.length} bucket(s)"
  Buckets.putText bucket key "Hello from the local mock!"
  let r ← r.step "put_object" s!"{bucket}/{key}"
  let content ← Buckets.getText bucket key
  let r ← r.step "get_object" content
  Buckets.deleteObject bucket key
  let r ← r.step "delete_object" key
  Buckets.delete bucket
  r.step "delete_bucket" bucket

/-- A table with one item. -/
def tableStore : Call SampleReport := do
  let key := "id"
  let table ← Call.ofSession (Session.freshName "sample-table")
  let r := SampleReport.empty .tableStore
  let created ← Tables.create table key
  let r ← r.step "create_table" created
  let described ← Tables.describe table
  let r ← r.step "describe_table" described
  let names ← Tables.list
  let r ← r.step "list_tables" (", ".intercalate names)
  Tables.putItem table key "1" "greeting" "hello"
  let r ← r.step "put_item" "id=1 greeting=hello"
  let greeting ← Tables.getItem table key "1" "greeting"
  let r ← r.step "get_item" (greeting.getD "<missing>")
  Tables.delete table
  r.step "delete_table" table

/-- A topic with one message. -/
def notification : Call SampleReport := do
  let r := SampleReport.empty .notification
  let name ← Call.ofSession (Session.freshName "sample-topic")
  let arn ← Topics.create name
  let r ← r.step "create_topic" arn
  let arns ← Topics.list
  let r ← r.step "list_topics" s!"{arns.length} topic(s)"
  let message ← Topics.publish arn (some "Sample") "Hello from the local mock!"
  let r ← r.step "publish" message
  Topics.delete arn
  r.step "delete_topic" arn

/-- A verified sender and one message. -/
def email : Call SampleReport := do
  let sender := "sender@example.com"
  let r := SampleReport.empty .email
  Mail.verify sender
  let r ← r.step "verify_email_identity" sender
  let verified ← Mail.verifiedAddresses
  let r ← r.step "list_verified_addresses" (", ".intercalate verified)
  let message ← Mail.send
    (.toOne sender "recipient@example.com" "Sample" "Hello from the local mock!")
  let r ← r.step "send_email" message
  let attempts ← Mail.deliveryAttempts
  r.step "get_send_statistics" s!"{attempts} delivery attempt(s)"

/-- A pool with one user who signs in. Of the access token only the preview is reported. -/
def directory : Call SampleReport := do
  let password := "Permanent-Pass1!"
  let r := SampleReport.empty .directory
  let name ← Call.ofSession (Session.freshName "sample-pool")
  let pool ← UserPools.create name
  let r ← r.step "create_user_pool" pool
  let client ← UserPools.createClient pool "sample-app"
  let r ← r.step "create_user_pool_client" client
  let username ← UserPools.createUser pool "sample-user" "Temporary-Pass1!"
  let r ← r.step "admin_create_user" username
  UserPools.setPassword pool username password
  let r ← r.step "admin_set_user_password" username
  let tokens ← UserPools.authenticate pool client username password
  let r ← r.step "admin_initiate_auth" tokens.accessTokenPreview
  let resolved ← UserPools.usernameFor tokens.accessToken
  let r ← r.step "get_user" resolved
  UserPools.delete pool
  r.step "delete_user_pool" pool

/-- The sample of a service. -/
def run (clients : Clients) : Service → Call SampleReport
  | .storage => storage clients.buckets
  | .tableStore => tableStore
  | .notification => notification
  | .email => email
  | .directory => directory

/-- Every sample in turn, up to the first that fails. -/
def runAll (clients : Clients) : Call (List SampleReport) := Service.all.mapM (run clients)

end CloudRehearsal.Sample
