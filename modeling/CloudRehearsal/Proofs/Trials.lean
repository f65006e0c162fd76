import CloudRehearsal.Proofs.BucketLifecycle
import CloudRehearsal.Proofs.FaithfulMock

/-!
Each check on a faithful mock. A check of the suite draws a name and then does its work under it
(`Trial.body_eq`); if the name is not in use, the work comes to its end without a failure and leaves the
mock as it was. One trial does leave something: a verified sender, and a mail that is counted
(`Trial.leads_countedMail`).
-/
namespace CloudRehearsal

open Checking Check Text

/-- The checks of the suite. -/
inductive Trial where
  | table
  | object
  | bucket
  | unverified
  | verified
  | topic
  | user
  deriving DecidableEq, Repr

namespace Trial

/-- The trials, in the order of the suite. -/
def all : List Trial := [table, object, bucket, unverified, verified, topic, user]

/-- The check that a trial makes. -/
def check (clients : Clients) : Trial → Check
  | table => ⟨"table_create_and_duplicate", tableCreateAndDuplicate⟩
  | object => ⟨"object_round_trip", objectRoundTrip clients.buckets⟩
  | bucket => ⟨"bucket_lifecycle", bucketLifecycle clients.buckets⟩
  | unverified => ⟨"unverified_sender_rejected", unverifiedSenderRejected⟩
  | verified => ⟨"verified_send_counts_delivery", verifiedSendCountsDelivery⟩
  | topic => ⟨"topic_publish", topicPublish⟩
  | user => ⟨"user_authentication", userAuthentication⟩

/-- What the names of a trial's resources begin with. -/
def label : Trial → String
  | table => "check-table"
  | object | bucket => "check-bucket"
  | unverified | verified => "sender"
  | topic => "check-topic"
  | user => "check-pool"

/-- The sender of mail that must be rejected. -/
def stranger (name : String) : String := s!"{name}@unverified.test"

/-- The sender of mail that must go through. -/
def sender (name : String) : String := s!"{name}@example.com"

theorem at_mem_stranger (name : String) : '@' ∈ (stranger name).toList := by
  simp [stranger, toString]

theorem at_mem_sender (name : String) : '@' ∈ (sender name).toList := by
  simp [sender, toString]

/-- The two are told apart by how they end. -/
theorem stranger_ne_sender (name name' : String) : stranger name ≠ sender name' := by
  intro h
  have := congrArg (·.toList.getLast?) h
  simp [stranger, sender, toString] at this

/-- Makes a sender verified and sends a mail of theirs; gives the counts before and after. -/
def countedMail (name : String) : Checking (Int64 × Int64) := do
  let before ← ofCall Mail.deliveryAttempts
  ofCall (Mail.verify (sender name))
  let _ ← ofCall (Mail.send (.toOne (sender name) "recipient@example.com" "Check" "Delivered"))
  let after ← ofCall Mail.deliveryAttempts
  return (before, after)

/-- What a trial does once it has a name. -/
def work (clients : Clients) : Trial → String → Checking Unit
  | table, name => do
    let created ← ofCall (Tables.create name "id")
    thenAlways (tableAssertions name created) (ofCall (Tables.delete name))
  | object, name => do
    ofCall (clients.buckets.create name)
    thenAlways (objectAssertions name "round-trip.txt" roundTripContent)
      (removeBucket name "round-trip.txt")
  | bucket, name => do
    ofCall (clients.buckets.create name)
    afterCreation name
  | unverified, name => do
    let source := stranger name
    let expected := s!"Email address not verified {source}"
    let sent : Except ClientError String ← ExceptT.lift
      (Mail.send (.toOne source "recipient@example.com" "Check" "Not delivered")).run
    match sent with
    | .ok _ => throw (.assertion s!"unverified sender {source} was accepted")
    | .error (.notVerified _ words) =>
      ensure (words == expected) s!"expected {Text.quoted expected}, got {Text.quoted words}"
    | .error e => throw (.client e)
  | verified, name => do
    let counts ← countedMail name
    ensure (counts.1 < counts.2) s!"delivery attempts went from {counts.1} to {counts.2}"
  | topic, name => do
    let arn ← ofCall (Topics.create name)
    let body : Checking Unit := do
      let message ← ofCall (Topics.publish arn none "check")
      ensure (message != "") "publish returned an empty message id"
    thenAlways body (ofCall (Topics.delete arn))
  | user, name => do
    let pool ← ofCall (UserPools.create name)
    thenAlways (authenticationAssertions pool) (ofCall (UserPools.delete pool))

theorem body_eq (clients : Clients) (t : Trial) :
    (t.check clients).body = (do
      let name ← ExceptT.lift (Session.freshName t.label)
      t.work clients name) := by
  cases t with
  | verified =>
    show verifiedSendCountsDelivery = _
    unfold verifiedSendCountsDelivery work countedMail
    simp only [bind_assoc, pure_bind]
    rfl
  | _ => rfl

/-! ## Checks on a faithful mock -/

section

variable {σ : Type} {server : Server σ} {view : σ → Mock} (hf : Faithful server view)
  {ids : Nat → Uuid} {M : Mock} {name : String}
include hf

theorem leads_tableAssertions (h : M.tables name ≠ none) :
    Leads server view ids M (tableAssertions name name) fun _ after => after = M := by
  refine Leads.bind (Q := fun _ after => after = M) (.ensure (beq_self_eq_true name) rfl) ?_
  rintro _ _ rfl
  refine (hf.createTable_again h).bind ?_
  rintro _ _ ⟨⟨resource, id, rfl⟩, rfl⟩
  exact .ensure (startsWith_iff.2 List.prefix_rfl) rfl

theorem leads_table (clients : Clients) (h : M.tables name = none) :
    Leads server view ids M (table.work clients name) fun _ after => after = M := by
  refine (hf.createTable h).bind ?_
  rintro _ _ ⟨rfl, rfl⟩
  refine (leads_tableAssertions hf (by simp)).always ?_
  rintro _ _ rfl
  refine (hf.deleteTable (by simp)).mono ?_
  rintro _ _ rfl
  exact Mock.withTable_none h _

theorem leads_objectAssertions {key : String} (hn : name ≠ "") (hk : key ≠ "")
    {objects : String → Option (List UInt8)} (h : M.buckets name = some objects)
    (content : String) :
    Leads server view ids M (objectAssertions name key content) fun _ after =>
      after = M.withBucket name
        (some (Function.update objects key (some (Text.Utf8.bytes content)))) := by
  refine (hf.putText hn hk h content).bind ?_
  rintro _ _ rfl
  refine (hf.getBytes hn hk (Mock.buckets_withBucket ..) (Function.update_self ..)).bind ?_
  rintro _ _ ⟨rfl, rfl⟩
  exact .ensure (beq_self_eq_true _) rfl

/-- The bucket goes with the one object in it. -/
theorem leads_removeBucket {key : String} (hn : name ≠ "") (hk : key ≠ "") (body : List UInt8)
    (h : M.buckets name = some (Function.update (fun _ => none) key (some body))) :
    Leads server view ids M (removeBucket name key) fun _ after => after = M.withBucket name none := by
  unfold removeBucket
  rw [ofCall_bind]
  refine (hf.deleteObject hn hk h (by simp)).bind ?_
  rintro _ _ rfl
  refine (hf.deleteBucket hn (Mock.buckets_withBucket ..) (by simp)).mono ?_
  rintro _ _ rfl
  exact Mock.withBucket_withBucket ..

theorem leads_object (clients : Clients) (hn : name ≠ "") (h : M.buckets name = none) :
    Leads server view ids M (object.work clients name) fun _ after => after = M := by
  refine (hf.createBucket _ hn h).bind ?_
  rintro _ _ rfl
  refine (leads_objectAssertions hf hn (by decide) (Mock.buckets_withBucket ..) _).always ?_
  rintro _ _ rfl
  rw [Mock.withBucket_withBucket]
  refine (leads_removeBucket hf hn (by decide) _ (Mock.buckets_withBucket ..)).mono ?_
  rintro _ _ rfl
  rw [Mock.withBucket_withBucket, Mock.withBucket_none h]

theorem leads_bucket (clients : Clients) (hn : name ≠ "") (h : M.buckets name = none) :
    Leads server view ids M (bucket.work clients name) fun _ after => after = M := by
  refine (hf.createBucket _ hn h).bind ?_
  rintro _ _ rfl
  refine (hf.containsBucket_present hn (by simp)).bind ?_
  rintro _ _ ⟨rfl, rfl⟩
  refine Leads.bind (Q := fun _ after => after = M.withBucket name (some fun _ => none))
    (.ensure rfl rfl) ?_
  rintro _ _ rfl
  refine (hf.deleteBucket hn (Mock.buckets_withBucket ..) (by simp)).bind ?_
  rintro _ _ rfl
  rw [Mock.withBucket_withBucket, Mock.withBucket_none h]
  refine (hf.containsBucket_absent hn h).bind ?_
  rintro _ _ ⟨rfl, rfl⟩
  exact .ensure rfl rfl

theorem leads_unverified (clients : Clients) (h : stranger name ∉ M.verified) :
    Leads server view ids M (unverified.work clients name) fun _ after => after = M := by
  refine (hf.sendMail_unverified (EmailMessage.check_toOne (at_mem_stranger name) (by simp) ..)
    h).bind ?_
  rintro _ _ ⟨⟨address, rfl⟩, rfl⟩
  exact .ensure (beq_self_eq_true _) rfl

theorem leads_topic (clients : Clients) (h : ∀ arn, M.topics arn ≠ some name) :
    Leads server view ids M (topic.work clients name) fun _ after => after = M := by
  refine (hf.createTopic h).bind ?_
  rintro arn _ ⟨hnew, rfl⟩
  refine Leads.always (Q := fun _ after => after = M.withTopic arn (some name)) ?_ ?_
  · refine (hf.publish (by simp) none "check").bind ?_
    rintro id _ ⟨hid, rfl⟩
    exact .ensure (bne_iff_ne.2 hid) rfl
  · rintro _ _ rfl
    refine (hf.deleteTopic (by simp)).mono ?_
    rintro _ _ rfl
    exact Mock.withTopic_none hnew _

/-- The pool is the only one that knows the token. -/
theorem leads_authenticationAssertions {id : String} (h : M.pools id = some (.empty name)) :
    Leads server view ids M (authenticationAssertions id) fun _ after =>
      ∃ pool, after = M.withPool id (some pool) := by
  refine (hf.createClient h "check-app").bind ?_
  rintro client _ rfl
  refine (hf.createUser (Mock.pools_withPool ..) rfl _).bind ?_
  rintro _ _ rfl
  refine (hf.setPassword (Mock.pools_withPool ..) (by simp) _).bind ?_
  rintro _ _ rfl
  refine (hf.authenticate (Mock.pools_withPool ..) (Set.mem_insert ..)
    (Mock.Pool.accounts_withAccount ..)).bind ?_
  rintro tokens _ ⟨hfresh, rfl⟩
  simp only [Mock.withPool_withPool] at hfresh ⊢
  refine (hf.usernameFor (Mock.pools_withPool ..) (Mock.Pool.tokens_withToken ..) ?_).bind ?_
  · intro id' pool' hpool htoken
    by_contra hne
    refine htoken (hfresh id' pool' ?_)
    simpa [Mock.withPool, hne] using hpool
  · rintro _ _ ⟨rfl, rfl⟩
    exact .ensure (beq_self_eq_true _) ⟨_, rfl⟩

theorem leads_user (clients : Clients)
    (h : ∀ id pool, M.pools id = some pool → pool.name ≠ name) :
    Leads server view ids M (user.work clients name) fun _ after => after = M := by
  refine (hf.createPool h).bind ?_
  rintro id _ ⟨hnew, rfl⟩
  refine (leads_authenticationAssertions hf (Mock.pools_withPool ..)).always ?_
  rintro _ _ ⟨pool, rfl⟩
  refine (hf.deletePool (by simp)).mono ?_
  rintro _ _ rfl
  rw [Mock.withPool_withPool, Mock.withPool_withPool, Mock.withPool_none hnew]

/-- The counts are the totals before and after, as far as 64 bits hold them. -/
theorem leads_countedMail :
    Leads server view ids M (countedMail name) fun counts after =>
      ∃ attempts, Counts server view M.attempts attempts ∧
        counts = (Int64.ofInt M.attempts, Int64.ofInt attempts) ∧
        after = { M with verified := insert (sender name) M.verified, attempts } := by
  refine hf.deliveryAttempts.bind ?_
  rintro _ _ ⟨rfl, rfl⟩
  refine (hf.verify (sender name)).bind ?_
  rintro _ _ rfl
  refine (hf.sendMail_verified (EmailMessage.check_toOne (at_mem_sender name) (by simp) ..)
    (Set.mem_insert ..)).bind ?_
  rintro _ _ ⟨attempts, hcounts, rfl⟩
  refine hf.deliveryAttempts.bind ?_
  rintro _ _ ⟨rfl, rfl⟩
  exact .pure ⟨attempts, hcounts, rfl, rfl⟩

end

end Trial

end CloudRehearsal
