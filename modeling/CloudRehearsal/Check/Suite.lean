import CloudRehearsal.Check.Outcome
import CloudRehearsal.Client.Clients
import CloudRehearsal.Client.Mail
import CloudRehearsal.Client.Tables
import CloudRehearsal.Client.Topics
import CloudRehearsal.Client.UserPools
import CloudRehearsal.Text.Basic

/-!
The acceptance checks. Each works on resources under fresh names, so a check can be run again and
beside others on one server, and takes away what it has made where the service allows it.

`runAll` runs all seven in order, whatever each of them comes to.
-/
namespace CloudRehearsal.Check

open Text Checking

/-! ## Tables -/

/-- What is expected of a new table: it has the name that was asked for, and cannot be created
twice. -/
def tableAssertions (name created : String) : Checking Unit := do
  ensure (created == name) s!"created table is named {quoted created}, expected {quoted name}"
  let expected := s!"Table already exists: {name}"
  let second : Except ClientError String ← ExceptT.lift (Tables.create name "id").run
  match second with
  | .ok _ => throw (.assertion s!"second create of {name} succeeded")
  | .error (.alreadyExists _ _ message) =>
    ensure (startsWith message expected) s!"expected {quoted expected}, got {quoted message}"
  | .error e => throw (.client e)

/-- A table is created under its name, and a second time not at all. -/
def tableCreateAndDuplicate : Checking Unit := do
  let name ← ExceptT.lift (Session.freshName "check-table")
  let created ← ofCall (Tables.create name "id")
  thenAlways (tableAssertions name created) (ofCall (Tables.delete name))

/-! ## Buckets -/

/-- What is expected of an object: its bytes come back as they went. -/
def objectAssertions (bucket key content : String) : Checking Unit := do
  ofCall (Buckets.putText bucket key content)
  let downloaded ← ofCall (Buckets.getBytes bucket key)
  let uploaded := Utf8.bytes content
  ensure (downloaded == uploaded)
    s!"downloaded {downloaded.length} byte(s), uploaded {uploaded.length}"

/-- Deletes an object, which need not be there, and then its bucket. -/
def removeBucket (bucket key : String) : Checking Unit := ofCall do
  Buckets.deleteObject bucket key
  Buckets.delete bucket

/-- The text that the check of objects uploads. -/
def roundTripContent : String := "Line one\nLínea dos ✓\n"

/-- An uploaded object is downloaded unchanged. -/
def objectRoundTrip (buckets : Buckets) : Checking Unit := do
  let key := "round-trip.txt"
  let bucket ← ExceptT.lift (Session.freshName "check-bucket")
  ofCall (buckets.create bucket)
  thenAlways (objectAssertions bucket key roundTripContent) (removeBucket bucket key)

/-- A bucket is there once it is created, and gone once it is deleted. -/
def bucketLifecycle (buckets : Buckets) : Checking Unit := do
  let bucket ← ExceptT.lift (Session.freshName "check-bucket")
  ofCall (buckets.create bucket)
  let created ← ofCall (Buckets.contains bucket)
  ensure created s!"bucket {bucket} missing after create"
  ofCall (Buckets.delete bucket)
  let left ← ofCall (Buckets.contains bucket)
  ensure (!left) s!"bucket {bucket} still exists after delete"

/-! ## Mail -/

/-- A message from a sender who is not verified is rejected in so many words. -/
def unverifiedSenderRejected : Checking Unit := do
  let name ← ExceptT.lift (Session.freshName "sender")
  let source := s!"{name}@unverified.test"
  let message := EmailMessage.toOne source "recipient@example.com" "Check" "Not delivered"
  let expected := s!"Email address not verified {source}"
  let sent : Except ClientError String ← ExceptT.lift (Mail.send message).run
  match sent with
  | .ok _ => throw (.assertion s!"unverified sender {source} was accepted")
  | .error (.notVerified _ words) =>
    ensure (words == expected) s!"expected {quoted expected}, got {quoted words}"
  | .error e => throw (.client e)

/-- A message from a verified sender raises the count of deliveries. -/
def verifiedSendCountsDelivery : Checking Unit := do
  let name ← ExceptT.lift (Session.freshName "sender")
  let source := s!"{name}@example.com"
  let message := EmailMessage.toOne source "recipient@example.com" "Check" "Delivered"
  let before ← ofCall Mail.deliveryAttempts
  ofCall (Mail.verify source)
  let _ ← ofCall (Mail.send message)
  let after ← ofCall Mail.deliveryAttempts
  ensure (before < after) s!"delivery attempts went from {before} to {after}"

/-! ## Topics -/

/-- A message to a new topic gets an identifier. -/
def topicPublish : Checking Unit := do
  let name ← ExceptT.lift (Session.freshName "check-topic")
  let arn ← ofCall (Topics.create name)
  let body : Checking Unit := do
    let message ← ofCall (Topics.publish arn none "check")
    ensure (message != "") "publish returned an empty message id"
  thenAlways body (ofCall (Topics.delete arn))

/-! ## Users -/

/-- What is expected of a new pool: a user with a permanent password signs in, and the token is
theirs. -/
def authenticationAssertions (pool : String) : Checking Unit := do
  let username := "check-user"
  let password := "Permanent-Pass1!"
  let client ← ofCall (UserPools.createClient pool "check-app")
  let _ ← ofCall (UserPools.createUser pool username "Temporary-Pass1!")
  ofCall (UserPools.setPassword pool username password)
  let tokens ← ofCall (UserPools.authenticate pool client username password)
  let resolved ← ofCall (UserPools.usernameFor tokens.accessToken)
  ensure (resolved == username)
    s!"token resolved to {quoted resolved}, expected {quoted username}"

/-- A user can sign in. -/
def userAuthentication : Checking Unit := do
  let name ← ExceptT.lift (Session.freshName "check-pool")
  let pool ← ofCall (UserPools.create name)
  thenAlways (authenticationAssertions pool) (ofCall (UserPools.delete pool))

/-! ## All of them -/

/-- The checks, in order. -/
def suite (clients : Clients) : List Check :=
  [⟨"table_create_and_duplicate", tableCreateAndDuplicate⟩,
    ⟨"object_round_trip", objectRoundTrip clients.buckets⟩,
    ⟨"bucket_lifecycle", bucketLifecycle clients.buckets⟩,
    ⟨"unverified_sender_rejected", unverifiedSenderRejected⟩,
    ⟨"verified_send_counts_delivery", verifiedSendCountsDelivery⟩,
    ⟨"topic_publish", topicPublish⟩,
    ⟨"user_authentication", userAuthentication⟩]

/-- Runs every check in order. A check that fails does not keep the others from running. -/
def runAll (clients : Clients) : Session (List CheckOutcome) := (suite clients).mapM outcome

end CloudRehearsal.Check
