import CloudRehearsal.Client.Clients
import CloudRehearsal.Proofs.Checking
import CloudRehearsal.Proofs.DeliveryTotal
import CloudRehearsal.Proofs.ErrorClasses
import Mathlib.Data.Set.Insert
import Mathlib.Logic.Function.Basic

/-!
Mocks that answer as the services are documented to. `Mock.Allows` says which replies and which changes
the documentation allows for a request, `Faithful` that a server never does anything else, and `Leads`
what a check comes to on such a server, in terms of what the mock holds and not of the server.

There is one rule for each request that the checks send. What a mock does with any other request is left
open.
-/
namespace CloudRehearsal

open Checking

/-! ## What a mock holds -/

namespace Mock

/-- A table: the name of its key, and its items by the value of the key. -/
structure Table where
  key : String
  items : String → Option TextItem

/-- A user of a pool. -/
structure Account where
  password : String
  /-- The user may sign in with the password as it is. -/
  permanent : Bool

/-- A pool of users. -/
structure Pool where
  name : String
  clients : Set String
  accounts : String → Option Account
  /-- The access tokens that have been issued, and to whom. -/
  tokens : String → Option String

namespace Pool

/-- A pool as it is created. -/
def empty (name : String) : Pool := ⟨name, ∅, fun _ => none, fun _ => none⟩

def withClient (pool : Pool) (client : String) : Pool :=
  { pool with clients := insert client pool.clients }

def withAccount (pool : Pool) (username : String) (account : Account) : Pool :=
  { pool with accounts := Function.update pool.accounts username (some account) }

def withToken (pool : Pool) (token username : String) : Pool :=
  { pool with tokens := Function.update pool.tokens token (some username) }

@[simp] theorem accounts_withAccount (pool : Pool) (username : String) (account : Account) :
    (pool.withAccount username account).accounts username = some account := Function.update_self ..

@[simp] theorem tokens_withToken (pool : Pool) (token username : String) :
    (pool.withToken token username).tokens token = some username := Function.update_self ..

end Pool

end Mock

/-- What a mock holds: tables, buckets of objects, senders, topics by resource name, and pools by
identifier. -/
structure Mock where
  tables : String → Option Mock.Table
  buckets : String → Option (String → Option (List UInt8))
  verified : Set String
  /-- How many deliveries have been attempted in all. -/
  attempts : Int
  topics : String → Option String
  pools : String → Option Mock.Pool

namespace Mock

variable (M : Mock)

/-- The mock with a table, or without it. -/
def withTable (table : String) (t : Option Table) : Mock :=
  { M with tables := Function.update M.tables table t }

/-- The mock with the objects of a bucket, or without the bucket. -/
def withBucket (bucket : String) (objects : Option (String → Option (List UInt8))) : Mock :=
  { M with buckets := Function.update M.buckets bucket objects }

/-- The mock with the name of a topic, or without the topic. -/
def withTopic (arn : String) (name : Option String) : Mock :=
  { M with topics := Function.update M.topics arn name }

/-- The mock with a pool, or without it. -/
def withPool (id : String) (pool : Option Pool) : Mock :=
  { M with pools := Function.update M.pools id pool }

@[simp] theorem tables_withTable (table : String) (t : Option Table) :
    (M.withTable table t).tables table = t := Function.update_self ..

@[simp] theorem buckets_withBucket (bucket : String)
    (objects : Option (String → Option (List UInt8))) :
    (M.withBucket bucket objects).buckets bucket = objects := Function.update_self ..

@[simp] theorem topics_withTopic (arn : String) (name : Option String) :
    (M.withTopic arn name).topics arn = name := Function.update_self ..

@[simp] theorem pools_withPool (id : String) (pool : Option Pool) :
    (M.withPool id pool).pools id = pool := Function.update_self ..

@[simp] theorem withBucket_withBucket (bucket : String)
    (objects objects' : Option (String → Option (List UInt8))) :
    (M.withBucket bucket objects).withBucket bucket objects' = M.withBucket bucket objects' := by
  simp [withBucket]

@[simp] theorem withPool_withPool (id : String) (pool pool' : Option Pool) :
    (M.withPool id pool).withPool id pool' = M.withPool id pool' := by
  simp [withPool]

variable {M}

/-! What was not there before is as good as never created once it is deleted. -/

theorem withTable_none {table : String} (h : M.tables table = none) (t : Option Table) :
    (M.withTable table t).withTable table none = M := by
  simp [withTable, ← h]

theorem withBucket_none {bucket : String} (h : M.buckets bucket = none) :
    M.withBucket bucket none = M := by
  simp [withBucket, ← h]

theorem withTopic_none {arn : String} (h : M.topics arn = none) (name : Option String) :
    (M.withTopic arn name).withTopic arn none = M := by
  simp [withTopic, ← h]

theorem withPool_none {id : String} (h : M.pools id = none) : M.withPool id none = M := by
  simp [withPool, ← h]

/-! ## What a mock answers -/

/-- The reply says that a table is there already. -/
def TableExists {α : Type} (table : String) (reply : Reply α) : Prop :=
  ∃ fault, reply = .error fault ∧
    fault.Says "ResourceInUseException" s!"Table already exists: {table}"

/-- The reply says that a sender is not verified. -/
def SenderUnverified {α : Type} (source : String) (reply : Reply α) : Prop :=
  ∃ fault, reply = .error fault ∧ fault.Says "MessageRejected" s!"Email address not verified {source}"

/-- The reply that a mock that holds `M` may give to a request, and what it may hold then. -/
def Allows (M : Mock) : (request : Request) → Reply request.Output → Mock → Prop
  | .createTable table key, reply, after =>
    (M.tables table = none → reply = .output (some table) ∧
      after = M.withTable table (some ⟨key, fun _ => none⟩)) ∧
    (M.tables table ≠ none → TableExists table reply ∧ after = M)
  | .deleteTable table, reply, after =>
    M.tables table ≠ none → reply = .output () ∧
      after = M.withTable table none
  | .createBucket bucket _, reply, after =>
    M.buckets bucket = none → reply = .output () ∧
      after = M.withBucket bucket (some fun _ => none)
  | .headBucket bucket, reply, after =>
    (M.buckets bucket = none → ∃ fault, reply = .error fault ∧ fault.Is "NotFound") ∧
    (M.buckets bucket ≠ none → reply = .output ()) ∧ after = M
  | .putObject bucket key body, reply, after =>
    ∀ objects, M.buckets bucket = some objects → reply = .output () ∧
      after = M.withBucket bucket (some (Function.update objects key (some body)))
  | .getObject bucket key, reply, after =>
    ∀ objects body, M.buckets bucket = some objects → objects key = some body →
      reply = .output (.complete body) ∧ after = M
  | .deleteObject bucket key, reply, after =>
    ∀ objects, M.buckets bucket = some objects → objects key ≠ none → reply = .output () ∧
      after = M.withBucket bucket (some (Function.update objects key none))
  | .deleteBucket bucket, reply, after =>
    ∀ objects, M.buckets bucket = some objects → (∀ key, objects key = none) →
      reply = .output () ∧ after = M.withBucket bucket none
  | .verifyEmailIdentity address, reply, after =>
    reply = .output () ∧ after = { M with verified := insert address M.verified }
  | .sendEmail source _ _ _, reply, after =>
    (source ∉ M.verified → SenderUnverified source reply ∧ after = M) ∧
    (source ∈ M.verified → (∃ id, reply = .output id) ∧
      ∃ attempts, M.attempts < attempts ∧ after = { M with attempts })
  | .getSendStatistics, reply, after =>
    (∃ counts, reply = .output counts ∧ Mail.exactTotal counts = M.attempts) ∧ after = M
  | .createTopic name, reply, after =>
    (∀ arn, M.topics arn ≠ some name) → ∃ arn, M.topics arn = none ∧ reply = .output (some arn) ∧
      after = M.withTopic arn (some name)
  | .publish arn _ _, reply, after =>
    M.topics arn ≠ none → (∃ id, id ≠ "" ∧ reply = .output (some id)) ∧ after = M
  | .deleteTopic arn, reply, after =>
    M.topics arn ≠ none → reply = .output () ∧
      after = M.withTopic arn none
  | .createUserPool name, reply, after =>
    (∀ id pool, M.pools id = some pool → pool.name ≠ name) →
      ∃ id, M.pools id = none ∧ reply = .output (some id) ∧
        after = M.withPool id (some (Pool.empty name))
  | .createUserPoolClient id _, reply, after =>
    ∀ pool, M.pools id = some pool → ∃ client, client ∉ pool.clients ∧
      reply = .output (some client) ∧
      after = M.withPool id (some (pool.withClient client))
  | .adminCreateUser id username password, reply, after =>
    ∀ pool, M.pools id = some pool → pool.accounts username = none →
      reply = .output (some username) ∧
      after = M.withPool id (some (pool.withAccount username ⟨password, false⟩))
  | .adminSetUserPassword id username password, reply, after =>
    ∀ pool, M.pools id = some pool → pool.accounts username ≠ none → reply = .output () ∧
      after = M.withPool id (some (pool.withAccount username ⟨password, true⟩))
  | .adminInitiateAuth id client username password, reply, after =>
    ∀ pool, M.pools id = some pool → client ∈ pool.clients →
      pool.accounts username = some ⟨password, true⟩ →
      ∃ token idToken refreshToken,
        (∀ id pool, M.pools id = some pool → pool.tokens token = none) ∧
        reply = .output ⟨none, some ⟨some token, idToken, refreshToken⟩⟩ ∧
        after = M.withPool id (some (pool.withToken token username))
  | .getUser token, reply, after =>
    ∀ id pool username, M.pools id = some pool → pool.tokens token = some username →
      (∀ id' pool', M.pools id' = some pool' → pool'.tokens token ≠ none → id' = id) →
      reply = .output username ∧ after = M
  | .deleteUserPool id, reply, after =>
    M.pools id ≠ none → reply = .output () ∧
      after = M.withPool id none
  | _, _, _ => True

end Mock

/-- The server answers as a mock that holds what `view` shows. -/
structure Faithful {σ : Type} (server : Server σ) (view : σ → Mock) : Prop where
  answers : ∀ s request, (view s).Allows request (server.answer request s).1
    (view (server.answer request s).2)

/-- A mail can take the total of attempts from `a` to `b`. -/
def Counts {σ : Type} (server : Server σ) (view : σ → Mock) (a b : Int) : Prop :=
  a < b ∧ ∃ s, ∃ mail : EmailMessage, (view s).attempts = a ∧
    (view (server.answer (.sendEmail mail.source mail.recipients mail.subject mail.body)
      s).2).attempts = b

/-! ## The two errors, as they are read -/

namespace Method

theorem read_tableExists {table key : String} {reply : Reply (Option String)}
    (h : Mock.TableExists table reply) :
    (createTable table key).read reply =
      .error (.alreadyExists "Table" table s!"Table already exists: {table}") := by
  obtain ⟨fault, rfl, hs⟩ := h
  exact congrArg Except.error (ClientError.ofException_of_says (List.mem_singleton.2 rfl) hs
    (by simp [toString]) _ _)

theorem read_senderUnverified {mail : EmailMessage} {reply : Reply String}
    (h : Mock.SenderUnverified mail.source reply) :
    (sendMail mail).read reply =
      .error (.notVerified mail.source s!"Email address not verified {mail.source}") := by
  obtain ⟨fault, rfl, hs⟩ := h
  refine congrArg Except.error (ClientError.ofSendEmail_eq_notVerified_iff.2 ⟨hs, ?_, rfl⟩)
  exact ⟨"Email address ".toList, " ".toList ++ mail.source.toList, by simp [toString]⟩

end Method

/-! ## What checks come to -/

variable {σ α β : Type} {server : Server σ} {view : σ → Mock} {ids : Nat → Uuid} {M : Mock}

/-- Wherever the mock holds `M`, the check succeeds, and `Q` holds of its result and of what the mock
holds then. No identifier is drawn. -/
def Leads (server : Server σ) (view : σ → Mock) (ids : Nat → Uuid) (M : Mock) (p : Checking α)
    (Q : α → Mock → Prop) : Prop :=
  ∀ w : World σ, view w.service = M → ∃ a w', Session.attempt p server ids w = (.ok a, w') ∧
    Q a (view w'.service) ∧ w'.drawn = w.drawn

namespace Leads

theorem pure {a : α} {Q : α → Mock → Prop} (h : Q a M) : Leads server view ids M (Pure.pure a) Q :=
  fun w hw => ⟨a, w, rfl, hw ▸ h, rfl⟩

theorem bind {p : Checking α} {f : α → Checking β} {Q : α → Mock → Prop} {R : β → Mock → Prop}
    (h : Leads server view ids M p Q) (hf : ∀ a N, Q a N → Leads server view ids N (f a) R) :
    Leads server view ids M (p >>= f) R := by
  intro w hw
  obtain ⟨a, w₁, e₁, hq, d₁⟩ := h w hw
  obtain ⟨b, w₂, e₂, hr, d₂⟩ := hf a _ hq w₁ rfl
  exact ⟨b, w₂, (Session.attempt_bind_ok e₁).trans e₂, hr, d₂.trans d₁⟩

theorem ensure {condition : Bool} {message : String} {Q : Unit → Mock → Prop}
    (hc : condition = true) (h : Q () M) :
    Leads server view ids M (ensure condition message) Q :=
  fun w hw => ⟨(), w, attempt_ensure_true hc message, hw ▸ h, rfl⟩

theorem always {body : Checking α} {cleanUp : Checking Unit} {Q R : α → Mock → Prop}
    (h : Leads server view ids M body Q)
    (hc : ∀ a N, Q a N → Leads server view ids N cleanUp fun _ => R a) :
    Leads server view ids M (thenAlways body cleanUp) R := by
  intro w hw
  obtain ⟨a, w₁, e₁, hq, d₁⟩ := h w hw
  obtain ⟨_, w₂, e₂, hr, d₂⟩ := hc a _ hq w₁ rfl
  exact ⟨a, w₂, Session.attempt_thenAlways e₁ e₂, hr, d₂.trans d₁⟩

theorem mono {p : Checking α} {Q R : α → Mock → Prop} (h : Leads server view ids M p Q)
    (hr : ∀ a N, Q a N → R a N) : Leads server view ids M p R := by
  intro w hw
  obtain ⟨a, w', e, hq, d⟩ := h w hw
  exact ⟨a, w', e, hr a _ hq, d⟩

end Leads

namespace Faithful

variable (hf : Faithful server view)
include hf

/-- A method whose result is looked at, failed or not: what the mock may answer decides. -/
theorem leads_run {m : Method} (hs : m.Sends) {Q : Except ClientError m.Result → Mock → Prop}
    (h : ∀ reply after, M.Allows m.request reply after → Q (m.read reply) after) :
    Leads server view ids M (ExceptT.lift m.call.run) Q := by
  rintro w rfl
  obtain ⟨w', e, n⟩ := (m.asks hs).run server ids w
  refine ⟨_, w', Session.attempt_lift_run e, ?_, n.drawn⟩
  rw [n.service]
  exact h _ _ (hf.answers w.service m.request)

theorem leads {m : Method} (hs : m.Sends) {Q : m.Result → Mock → Prop}
    (h : ∀ reply after, M.Allows m.request reply after → ∃ a, m.read reply = .ok a ∧ Q a after) :
    Leads server view ids M (ofCall m.call) Q := by
  rintro w rfl
  obtain ⟨a, hr, hq⟩ := h _ _ (hf.answers w.service m.request)
  obtain ⟨w', e, n⟩ := Method.ofCall_ok hs ids hr
  refine ⟨a, w', e, ?_, n.drawn⟩
  rw [n.service]
  exact hq

/-! ## Tables -/

theorem createTable {table key : String} (h : M.tables table = none) :
    Leads server view ids M (ofCall (Tables.create table key)) fun created after =>
      created = table ∧
      after = M.withTable table (some ⟨key, fun _ => none⟩) := by
  refine hf.leads (m := .createTable table key) rfl fun reply after allowed => ?_
  obtain ⟨rfl, hafter⟩ := allowed.1 h
  exact ⟨table, rfl, rfl, hafter⟩

theorem createTable_again {table key : String} (h : M.tables table ≠ none) :
    Leads server view ids M (ExceptT.lift (Tables.create table key).run) fun result after =>
      (∃ resource id,
        result = .error (.alreadyExists resource id s!"Table already exists: {table}")) ∧
      after = M := by
  refine hf.leads_run (m := .createTable table key) rfl fun reply after allowed => ?_
  obtain ⟨hexists, hafter⟩ := allowed.2 h
  exact ⟨⟨_, _, Method.read_tableExists hexists⟩, hafter⟩

theorem deleteTable {table : String} (h : M.tables table ≠ none) :
    Leads server view ids M (ofCall (Tables.delete table)) fun _ after =>
      after = M.withTable table none := by
  refine hf.leads (m := .deleteTable table) rfl fun reply after allowed => ?_
  obtain ⟨rfl, hafter⟩ := allowed h
  exact ⟨(), rfl, hafter⟩

/-! ## Buckets -/

theorem createBucket (b : Buckets) {bucket : String} (hb : bucket ≠ "")
    (h : M.buckets bucket = none) :
    Leads server view ids M (ofCall (b.create bucket)) fun _ after =>
      after = M.withBucket bucket (some fun _ => none) := by
  refine hf.leads (Method.sends_createBucket b hb) fun reply after allowed => ?_
  obtain ⟨rfl, hafter⟩ := allowed h
  exact ⟨(), rfl, hafter⟩

theorem containsBucket_absent {bucket : String} (hb : bucket ≠ "") (h : M.buckets bucket = none) :
    Leads server view ids M (ofCall (Buckets.contains bucket)) fun there after =>
      there = false ∧ after = M := by
  refine hf.leads (Method.sends_containsBucket hb) fun reply after allowed => ?_
  obtain ⟨habsent, -, hafter⟩ := allowed
  obtain ⟨fault, rfl, hn⟩ := habsent h
  exact ⟨false, Method.fail_absent hn, rfl, hafter⟩

theorem containsBucket_present {bucket : String} (hb : bucket ≠ "") (h : M.buckets bucket ≠ none) :
    Leads server view ids M (ofCall (Buckets.contains bucket)) fun there after =>
      there = true ∧ after = M := by
  refine hf.leads (Method.sends_containsBucket hb) fun reply after allowed => ?_
  obtain ⟨-, hpresent, hafter⟩ := allowed
  obtain rfl := hpresent h
  exact ⟨true, rfl, rfl, hafter⟩

theorem deleteBucket {bucket : String} (hb : bucket ≠ "") {objects : String → Option (List UInt8)}
    (h : M.buckets bucket = some objects) (hempty : ∀ key, objects key = none) :
    Leads server view ids M (ofCall (Buckets.delete bucket)) fun _ after =>
      after = M.withBucket bucket none := by
  refine hf.leads (Method.sends_deleteBucket hb) fun reply after allowed => ?_
  obtain ⟨rfl, hafter⟩ := allowed objects h hempty
  exact ⟨(), rfl, hafter⟩

section

variable {bucket key : String} (hb : bucket ≠ "") (hk : key ≠ "")
  {objects : String → Option (List UInt8)} (h : M.buckets bucket = some objects)
include hb hk h

theorem putText (content : String) :
    Leads server view ids M (ofCall (Buckets.putText bucket key content)) fun _ after =>
      after = M.withBucket bucket
        (some (Function.update objects key (some (Text.Utf8.bytes content)))) := by
  refine hf.leads (Method.sends_putText hb hk content) fun reply after allowed => ?_
  obtain ⟨rfl, hafter⟩ := allowed objects h
  exact ⟨(), rfl, hafter⟩

theorem getBytes {body : List UInt8} (hbody : objects key = some body) :
    Leads server view ids M (ofCall (Buckets.getBytes bucket key)) fun bytes after =>
      bytes = body ∧ after = M := by
  refine hf.leads (Method.sends_getBytes hb hk) fun reply after allowed => ?_
  obtain ⟨rfl, hafter⟩ := allowed objects body h hbody
  exact ⟨body, rfl, rfl, hafter⟩

theorem deleteObject (hthere : objects key ≠ none) :
    Leads server view ids M (ofCall (Buckets.deleteObject bucket key)) fun _ after =>
      after = M.withBucket bucket (some (Function.update objects key none)) := by
  refine hf.leads (Method.sends_deleteObject hb hk) fun reply after allowed => ?_
  obtain ⟨rfl, hafter⟩ := allowed objects h hthere
  exact ⟨(), rfl, hafter⟩

end

/-! ## Mail -/

theorem deliveryAttempts :
    Leads server view ids M (ofCall Mail.deliveryAttempts) fun total after =>
      total = Int64.ofInt M.attempts ∧ after = M := by
  refine hf.leads (m := .deliveryAttempts) rfl fun reply after allowed => ?_
  obtain ⟨⟨counts, rfl, hsum⟩, hafter⟩ := allowed
  exact ⟨Mail.total counts, rfl, hsum ▸ Mail.total_eq counts, hafter⟩

theorem verify (address : String) :
    Leads server view ids M (ofCall (Mail.verify address)) fun _ after =>
      after = { M with verified := insert address M.verified } := by
  refine hf.leads (m := .verify address) rfl fun reply after allowed => ?_
  obtain ⟨rfl, hafter⟩ := allowed
  exact ⟨(), rfl, hafter⟩

theorem sendMail_unverified {mail : EmailMessage} (hc : mail.check = .ok ())
    (h : mail.source ∉ M.verified) :
    Leads server view ids M (ExceptT.lift (Mail.send mail).run) fun result after =>
      (∃ address,
        result = .error (.notVerified address s!"Email address not verified {mail.source}")) ∧
      after = M := by
  refine hf.leads_run (m := .sendMail mail) hc fun reply after allowed => ?_
  obtain ⟨hrejected, hafter⟩ := allowed.1 h
  exact ⟨⟨_, Method.read_senderUnverified hrejected⟩, hafter⟩

theorem sendMail_verified {mail : EmailMessage} (hc : mail.check = .ok ())
    (h : mail.source ∈ M.verified) :
    Leads server view ids M (ofCall (Mail.send mail)) fun _ after =>
      ∃ attempts, Counts server view M.attempts attempts ∧ after = { M with attempts } := by
  rintro w rfl
  obtain ⟨⟨id, hid⟩, attempts, hlt, hafter⟩ := (hf.answers w.service (.sendEmail mail.source
    mail.recipients mail.subject mail.body)).2 h
  have hr : (Method.sendMail mail).read (server.answer (Method.sendMail mail).request w.service).1 =
      .ok id := by
    rw [hid]
    rfl
  obtain ⟨w', e, n⟩ := Method.ofCall_ok (m := .sendMail mail) hc ids hr
  refine ⟨id, w', e, ⟨attempts, ⟨hlt, w.service, mail, rfl, ?_⟩, ?_⟩, n.drawn⟩
  · rw [hafter]
  · rw [n.service]
    exact hafter

/-! ## Topics -/

theorem createTopic {name : String} (h : ∀ arn, M.topics arn ≠ some name) :
    Leads server view ids M (ofCall (Topics.create name)) fun arn after =>
      M.topics arn = none ∧ after = M.withTopic arn (some name) := by
  refine hf.leads (m := .createTopic name) rfl fun reply after allowed => ?_
  obtain ⟨arn, hnew, rfl, hafter⟩ := allowed h
  exact ⟨arn, rfl, hnew, hafter⟩

theorem publish {arn : String} (h : M.topics arn ≠ none) (subject : Option String)
    (message : String) :
    Leads server view ids M (ofCall (Topics.publish arn subject message)) fun id after =>
      id ≠ "" ∧ after = M := by
  refine hf.leads (m := .publish arn subject message) rfl fun reply after allowed => ?_
  obtain ⟨⟨id, hne, rfl⟩, hafter⟩ := allowed h
  exact ⟨id, rfl, hne, hafter⟩

theorem deleteTopic {arn : String} (h : M.topics arn ≠ none) :
    Leads server view ids M (ofCall (Topics.delete arn)) fun _ after =>
      after = M.withTopic arn none := by
  refine hf.leads (m := .deleteTopic arn) rfl fun reply after allowed => ?_
  obtain ⟨rfl, hafter⟩ := allowed h
  exact ⟨(), rfl, hafter⟩

/-! ## User pools -/

theorem createPool {name : String} (h : ∀ id pool, M.pools id = some pool → pool.name ≠ name) :
    Leads server view ids M (ofCall (UserPools.create name)) fun id after =>
      M.pools id = none ∧ after = M.withPool id (some (.empty name)) := by
  refine hf.leads (m := .createPool name) rfl fun reply after allowed => ?_
  obtain ⟨id, hnew, rfl, hafter⟩ := allowed h
  exact ⟨id, rfl, hnew, hafter⟩

theorem deletePool {id : String} (h : M.pools id ≠ none) :
    Leads server view ids M (ofCall (UserPools.delete id)) fun _ after =>
      after = M.withPool id none := by
  refine hf.leads (m := .deletePool id) rfl fun reply after allowed => ?_
  obtain ⟨rfl, hafter⟩ := allowed h
  exact ⟨(), rfl, hafter⟩

section

variable {id : String} {pool : Mock.Pool} (h : M.pools id = some pool)
include h

theorem createClient (name : String) :
    Leads server view ids M (ofCall (UserPools.createClient id name)) fun client after =>
      after = M.withPool id (some (pool.withClient client)) := by
  refine hf.leads (m := .createClient id name) rfl fun reply after allowed => ?_
  obtain ⟨client, -, rfl, hafter⟩ := allowed pool h
  exact ⟨client, rfl, hafter⟩

theorem createUser {username : String} (hnew : pool.accounts username = none) (password : String) :
    Leads server view ids M (ofCall (UserPools.createUser id username password)) fun _ after =>
      after = M.withPool id (some (pool.withAccount username ⟨password, false⟩)) := by
  refine hf.leads (m := .createUser id username password) rfl fun reply after allowed => ?_
  obtain ⟨rfl, hafter⟩ := allowed pool h hnew
  exact ⟨username, rfl, hafter⟩

theorem setPassword {username : String} (hthere : pool.accounts username ≠ none)
    (password : String) :
    Leads server view ids M (ofCall (UserPools.setPassword id username password)) fun _ after =>
      after = M.withPool id (some (pool.withAccount username ⟨password, true⟩)) := by
  refine hf.leads (m := .setPassword id username password) rfl fun reply after allowed => ?_
  obtain ⟨rfl, hafter⟩ := allowed pool h hthere
  exact ⟨(), rfl, hafter⟩

theorem authenticate {client username password : String} (hclient : client ∈ pool.clients)
    (haccount : pool.accounts username = some ⟨password, true⟩) :
    Leads server view ids M (ofCall (UserPools.authenticate id client username password))
      fun tokens after =>
        (∀ id pool, M.pools id = some pool → pool.tokens tokens.accessToken = none) ∧
        after = M.withPool id (some (pool.withToken tokens.accessToken username)) := by
  refine hf.leads (m := .authenticate id client username password) rfl fun reply after allowed => ?_
  obtain ⟨token, idToken, refreshToken, hfresh, rfl, hafter⟩ := allowed pool h hclient haccount
  exact ⟨⟨token, idToken, refreshToken⟩, rfl, hfresh, hafter⟩

theorem usernameFor {token username : String} (htoken : pool.tokens token = some username)
    (honly : ∀ id' pool', M.pools id' = some pool' → pool'.tokens token ≠ none → id' = id) :
    Leads server view ids M (ofCall (UserPools.usernameFor token)) fun resolved after =>
      resolved = username ∧ after = M := by
  refine hf.leads (m := .usernameFor token) rfl fun reply after allowed => ?_
  obtain ⟨rfl, hafter⟩ := allowed id pool username h htoken honly
  exact ⟨username, rfl, rfl, hafter⟩

end

end Faithful

end CloudRehearsal
