import CloudRehearsal.Proofs.FaithfulMock
import Std.Data.HashMap

/-!
A mock that keeps everything in memory, in hash maps. It answers as a faithful mock does
(`Memory.faithful`), and counts one delivery for each mail (`Memory.eq_add_one_of_counts`).

What a faithful mock may leave open is here as the services have it: a full bucket is not deleted,
and a user who has not set a password is challenged.
-/
namespace CloudRehearsal

open Std (HashMap)

/-! ## Maps as functions -/

/-- What a map holds under each key. -/
def held {α : Type} (m : HashMap String α) : String → Option α := fun k => m[k]?

section

variable {α β : Type} (m : HashMap String α) (k : String) (a : α)

theorem held_empty : held (∅ : HashMap String α) = fun _ => none := by
  funext k
  exact HashMap.getElem?_empty

theorem held_insert : held (m.insert k a) = Function.update (held m) k (some a) := by
  funext j
  by_cases hjk : k = j
  · subst hjk
    simp [held]
  · simp [held, HashMap.getElem?_insert, hjk, Ne.symm hjk]

theorem held_erase : held (m.erase k) = Function.update (held m) k none := by
  funext j
  by_cases hjk : k = j
  · subst hjk
    simp [held]
  · simp [held, HashMap.getElem?_erase, hjk, Ne.symm hjk]

theorem held_single {α : Type} {k k' : String} {a b : α}
    (h : held ((∅ : HashMap String α).insert k a) k' = some b) : k' = k ∧ b = a := by
  rw [held_insert, held_empty, Function.update_apply] at h
  split at h
  · case isTrue hk => exact ⟨hk, (Option.some.inj h).symm⟩
  · cases h

theorem held_single_of_ne {α : Type} {k k' : String} {a : α} (hne : k' ≠ k) :
    held ((∅ : HashMap String α).insert k a) k' = none :=
  Option.eq_none_iff_forall_ne_some.2 fun _ h => hne (held_single h).1

/-- What a map shows under each key, when its values are shown by `f`. -/
def shown (f : α → β) (m : HashMap String α) : String → Option β := Option.map f ∘ held m

theorem shown_insert (f : α → β) :
    shown f (m.insert k a) = Function.update (shown f m) k (some (f a)) := by
  rw [shown, held_insert, Function.comp_update]
  rfl

theorem shown_erase (f : α → β) : shown f (m.erase k) = Function.update (shown f m) k none := by
  rw [shown, held_erase, Function.comp_update]
  rfl

theorem held_eq_none_iff {m : HashMap String α} {k : String} : held m k = none ↔ k ∉ m := by
  rw [HashMap.mem_iff_isSome_getElem?, Option.not_isSome_iff_eq_none]
  rfl

theorem shown_eq_none_iff {f : α → β} {m : HashMap String α} {k : String} :
    shown f m k = none ↔ k ∉ m := Option.map_eq_none_iff.trans held_eq_none_iff

theorem shown_eq_some_iff {f : α → β} {m : HashMap String α} {k : String} {b : β} :
    shown f m k = some b ↔ ∃ a, m[k]? = some a ∧ f a = b := Option.map_eq_some_iff

end

/-! ## Fresh identifiers -/

/-- An identifier that is longer than all that are taken. -/
def fresh (taken : List String) : String :=
  String.ofList (List.replicate ((taken.map String.toList).flatten.length + 1) 'x')

theorem fresh_notMem (taken : List String) : fresh taken ∉ taken := by
  intro h
  have hsub : (fresh taken).toList.Sublist (taken.map String.toList).flatten :=
    List.sublist_flatten_of_mem (List.mem_map_of_mem h)
  have hle := hsub.length_le
  rw [fresh, String.toList_ofList, List.length_replicate] at hle
  omega

theorem getElem?_fresh_keys {α : Type} (m : HashMap String α) : m[fresh m.keys]? = none := by
  have hnew : fresh m.keys ∉ m := fun h => fresh_notMem m.keys (HashMap.mem_keys.2 h)
  exact HashMap.getElem?_eq_none hnew

/-! ## The mock -/

/-- A pool of users in memory. -/
structure Memory.Pool where
  name : String
  clients : List String
  accounts : HashMap String Mock.Account
  tokens : HashMap String String

/-- What the mock has in memory. -/
structure Memory where
  tables : HashMap String Mock.Table
  buckets : HashMap String (HashMap String (List UInt8))
  verified : List String
  /-- How many mails have been sent. -/
  sent : Nat
  topics : HashMap String String
  pools : HashMap String Memory.Pool

namespace Memory

/-- The reply for a request that is refused by an exception. -/
def refused {α : Type} (name : String) : Reply α := .error (.modeled name none)

/-- The reply for any other request that is refused. -/
def rejected {α : Type} (code : String) : Reply α := .error (.unmodeled code none)

section

variable (m : Memory)

/-! ### Tables -/

def createTable (table key : String) : Reply (Option String) × Memory :=
  if table ∈ m.tables then
    (.error (.modeled "ResourceInUseException" (some s!"Table already exists: {table}")), m)
  else (.output (some table), { m with tables := m.tables.insert table ⟨key, fun _ => none⟩ })

def deleteTable (table : String) : Reply Unit × Memory :=
  if table ∈ m.tables then (.output (), { m with tables := m.tables.erase table })
  else (refused "ResourceNotFoundException", m)

/-! ### Buckets -/

def createBucket (bucket : String) : Reply Unit × Memory :=
  if bucket ∈ m.buckets then (refused "BucketAlreadyOwnedByYou", m)
  else (.output (), { m with buckets := m.buckets.insert bucket ∅ })

def headBucket (bucket : String) : Reply Unit × Memory :=
  if bucket ∈ m.buckets then (.output (), m) else (refused "NotFound", m)

def putObject (bucket key : String) (body : List UInt8) : Reply Unit × Memory :=
  match m.buckets[bucket]? with
  | some objects =>
    (.output (), { m with buckets := m.buckets.insert bucket (objects.insert key body) })
  | none => (rejected "NoSuchBucket", m)

def getObject (bucket key : String) : Reply Body × Memory :=
  match m.buckets[bucket]? with
  | some objects =>
    match objects[key]? with
    | some body => (.output (.complete body), m)
    | none => (refused "NoSuchKey", m)
  | none => (rejected "NoSuchBucket", m)

def deleteObject (bucket key : String) : Reply Unit × Memory :=
  match m.buckets[bucket]? with
  | some objects => (.output (), { m with buckets := m.buckets.insert bucket (objects.erase key) })
  | none => (rejected "NoSuchBucket", m)

def deleteBucket (bucket : String) : Reply Unit × Memory :=
  match m.buckets[bucket]? with
  | some objects =>
    if objects.isEmpty then (.output (), { m with buckets := m.buckets.erase bucket })
    else (rejected "BucketNotEmpty", m)
  | none => (rejected "NoSuchBucket", m)

/-! ### Mail -/

def verifyEmailIdentity (address : String) : Reply Unit × Memory :=
  (.output (), { m with verified := address :: m.verified })

def sendEmail (source : String) : Reply String × Memory :=
  if source ∈ m.verified then (.output "message", { m with sent := m.sent + 1 })
  else
    (.error (.modeled "MessageRejected" (some s!"Email address not verified {source}")), m)

/-- A point in the statistics for each mail. -/
def getSendStatistics : Reply (List Int64) × Memory := (.output (List.replicate m.sent 1), m)

/-! ### Topics -/

/-- The topic that has a name. -/
def topicNamed? (name : String) : Option String :=
  (m.topics.toList.find? fun (_, n) => n == name).map (·.1)

/-- A topic that is there already is given again. -/
def createTopic (name : String) : Reply (Option String) × Memory :=
  match m.topicNamed? name with
  | some arn => (.output (some arn), m)
  | none =>
    let arn := fresh m.topics.keys
    (.output (some arn), { m with topics := m.topics.insert arn name })

def publish (arn : String) : Reply (Option String) × Memory :=
  if arn ∈ m.topics then (.output (some "message"), m) else (refused "NotFoundException", m)

def deleteTopic (arn : String) : Reply Unit × Memory :=
  (.output (), { m with topics := m.topics.erase arn })

/-! ### User pools -/

def createUserPool (name : String) : Reply (Option String) × Memory :=
  let id := fresh m.pools.keys
  (.output (some id), { m with pools := m.pools.insert id ⟨name, [], ∅, ∅⟩ })

def createUserPoolClient (id : String) : Reply (Option String) × Memory :=
  match m.pools[id]? with
  | some pool =>
    let client := fresh pool.clients
    (.output (some client),
      { m with pools := m.pools.insert id { pool with clients := client :: pool.clients } })
  | none => (refused "ResourceNotFoundException", m)

def adminCreateUser (id username password : String) : Reply (Option String) × Memory :=
  match m.pools[id]? with
  | some pool =>
    if username ∈ pool.accounts then (refused "UsernameExistsException", m)
    else
      let accounts := pool.accounts.insert username ⟨password, false⟩
      (.output (some username), { m with pools := m.pools.insert id { pool with accounts } })
  | none => (refused "ResourceNotFoundException", m)

def adminSetUserPassword (id username password : String) : Reply Unit × Memory :=
  match m.pools[id]? with
  | some pool =>
    if username ∈ pool.accounts then
      let accounts := pool.accounts.insert username ⟨password, true⟩
      (.output (), { m with pools := m.pools.insert id { pool with accounts } })
    else (refused "UserNotFoundException", m)
  | none => (refused "ResourceNotFoundException", m)

/-- All access tokens. -/
def tokens : List String := m.pools.toList.flatMap fun (_, pool) => pool.tokens.keys

def adminInitiateAuth (id client username password : String) : Reply SignIn × Memory :=
  match m.pools[id]? with
  | some pool =>
    match pool.accounts[username]? with
    | some account =>
      if client ∈ pool.clients ∧ account.password = password then
        if account.permanent then
          let token := fresh m.tokens
          let tokens := pool.tokens.insert token username
          (.output ⟨none, some ⟨some token, some "id", some "refresh"⟩⟩,
            { m with pools := m.pools.insert id { pool with tokens } })
        else (.output ⟨some "NEW_PASSWORD_REQUIRED", none⟩, m)
      else (refused "NotAuthorizedException", m)
    | none => (refused "UserNotFoundException", m)
  | none => (refused "ResourceNotFoundException", m)

/-- The user to whom a token has been issued. -/
def userOf? (token : String) : Option String :=
  m.pools.toList.findSome? fun (_, pool) => pool.tokens[token]?

def getUser (token : String) : Reply String × Memory :=
  match m.userOf? token with
  | some username => (.output username, m)
  | none => (refused "NotAuthorizedException", m)

def deleteUserPool (id : String) : Reply Unit × Memory :=
  if id ∈ m.pools then (.output (), { m with pools := m.pools.erase id })
  else (refused "ResourceNotFoundException", m)

end

/-- The mock as a server. -/
def server : Server Memory where
  answer
    | .createTable table key, m => m.createTable table key
    | .deleteTable table, m => m.deleteTable table
    | .createBucket bucket _, m => m.createBucket bucket
    | .headBucket bucket, m => m.headBucket bucket
    | .putObject bucket key body, m => m.putObject bucket key body
    | .getObject bucket key, m => m.getObject bucket key
    | .deleteObject bucket key, m => m.deleteObject bucket key
    | .deleteBucket bucket, m => m.deleteBucket bucket
    | .verifyEmailIdentity address, m => m.verifyEmailIdentity address
    | .sendEmail source _ _ _, m => m.sendEmail source
    | .getSendStatistics, m => m.getSendStatistics
    | .createTopic name, m => m.createTopic name
    | .publish arn _ _, m => m.publish arn
    | .deleteTopic arn, m => m.deleteTopic arn
    | .createUserPool name, m => m.createUserPool name
    | .createUserPoolClient id _, m => m.createUserPoolClient id
    | .adminCreateUser id username password, m => m.adminCreateUser id username password
    | .adminSetUserPassword id username password, m => m.adminSetUserPassword id username password
    | .adminInitiateAuth id client username password, m =>
      m.adminInitiateAuth id client username password
    | .getUser token, m => m.getUser token
    | .deleteUserPool id, m => m.deleteUserPool id
    | _, m => (rejected "NotImplemented", m)

/-- What a pool in memory holds. -/
def Pool.view (pool : Pool) : Mock.Pool :=
  ⟨pool.name, {client | client ∈ pool.clients}, held pool.accounts, held pool.tokens⟩

/-- What the mock holds. -/
def view (m : Memory) : Mock where
  tables := held m.tables
  buckets := shown held m.buckets
  verified := {address | address ∈ m.verified}
  attempts := m.sent
  topics := held m.topics
  pools := shown Pool.view m.pools

/-! ## What it holds after a change -/

section

variable (m : Memory)

theorem view_tables_insert (table : String) (t : Mock.Table) :
    view { m with tables := m.tables.insert table t } = m.view.withTable table (some t) := by
  simp [view, Mock.withTable, held_insert]

theorem view_tables_erase (table : String) :
    view { m with tables := m.tables.erase table } = m.view.withTable table none := by
  simp [view, Mock.withTable, held_erase]

theorem view_buckets_insert (bucket : String) (objects : HashMap String (List UInt8)) :
    view { m with buckets := m.buckets.insert bucket objects } =
      m.view.withBucket bucket (some (held objects)) := by
  simp [view, Mock.withBucket, shown_insert]

theorem view_buckets_erase (bucket : String) :
    view { m with buckets := m.buckets.erase bucket } = m.view.withBucket bucket none := by
  simp [view, Mock.withBucket, shown_erase]

theorem view_topics_insert (arn name : String) :
    view { m with topics := m.topics.insert arn name } = m.view.withTopic arn (some name) := by
  simp [view, Mock.withTopic, held_insert]

theorem view_topics_erase (arn : String) :
    view { m with topics := m.topics.erase arn } = m.view.withTopic arn none := by
  simp [view, Mock.withTopic, held_erase]

theorem view_pools_insert (id : String) (pool : Pool) :
    view { m with pools := m.pools.insert id pool } = m.view.withPool id (some pool.view) := by
  simp [view, Mock.withPool, shown_insert]

theorem view_pools_erase (id : String) :
    view { m with pools := m.pools.erase id } = m.view.withPool id none := by
  simp [view, Mock.withPool, shown_erase]

end

/-! ## What it answers -/

/-- The mock may answer a request so. -/
def Right (m : Memory) (request : Request) (answer : Reply request.Output × Memory) : Prop :=
  m.view.Allows request answer.1 answer.2.view

section

variable (m : Memory)

theorem right_createTable (table key : String) :
    m.Right (.createTable table key) (m.createTable table key) := by
  by_cases hin : table ∈ m.tables
  · refine ⟨fun h => absurd hin (held_eq_none_iff.1 h), fun _ => ?_⟩
    simp [createTable, hin, Mock.TableExists]
  · refine ⟨fun _ => ?_, fun h => absurd (held_eq_none_iff.2 hin) h⟩
    simp [createTable, hin, view_tables_insert]

theorem right_deleteTable (table : String) :
    m.Right (.deleteTable table) (m.deleteTable table) := by
  intro h
  have hin : table ∈ m.tables := not_not.1 fun hout => h (held_eq_none_iff.2 hout)
  simp [deleteTable, hin, view_tables_erase]

theorem right_createBucket (bucket : String) (location : Option String) :
    m.Right (.createBucket bucket location) (m.createBucket bucket) := by
  intro h
  have hout : bucket ∉ m.buckets := shown_eq_none_iff.1 h
  simp [createBucket, hout, view_buckets_insert, held_empty]

theorem right_headBucket (bucket : String) :
    m.Right (.headBucket bucket) (m.headBucket bucket) := by
  by_cases hin : bucket ∈ m.buckets
  · refine ⟨fun h => absurd hin (shown_eq_none_iff.1 h), fun _ => ?_, ?_⟩
    all_goals simp [headBucket, hin]
  · refine ⟨fun _ => ?_, fun h => absurd (shown_eq_none_iff.2 hin) h, ?_⟩
    all_goals simp [headBucket, hin, refused]

theorem right_putObject (bucket key : String) (body : List UInt8) :
    m.Right (.putObject bucket key body) (m.putObject bucket key body) := by
  intro objects h
  obtain ⟨os, hos, rfl⟩ := shown_eq_some_iff.1 h
  simp [putObject, hos, view_buckets_insert, held_insert]

theorem right_getObject (bucket key : String) :
    m.Right (.getObject bucket key) (m.getObject bucket key) := by
  intro objects body h hbody
  obtain ⟨os, hos, rfl⟩ := shown_eq_some_iff.1 h
  have hkey : os[key]? = some body := hbody
  simp [getObject, hos, hkey]

theorem right_deleteObject (bucket key : String) :
    m.Right (.deleteObject bucket key) (m.deleteObject bucket key) := by
  intro objects h _
  obtain ⟨os, hos, rfl⟩ := shown_eq_some_iff.1 h
  simp [deleteObject, hos, view_buckets_insert, held_erase]

theorem right_deleteBucket (bucket : String) :
    m.Right (.deleteBucket bucket) (m.deleteBucket bucket) := by
  intro objects h hempty
  obtain ⟨os, hos, rfl⟩ := shown_eq_some_iff.1 h
  have hos' : os.isEmpty = true :=
    HashMap.isEmpty_iff_forall_not_mem.2 fun key => held_eq_none_iff.1 (hempty key)
  simp [deleteBucket, hos, hos', view_buckets_erase]

theorem right_verifyEmailIdentity (address : String) :
    m.Right (.verifyEmailIdentity address) (m.verifyEmailIdentity address) := by
  refine ⟨rfl, ?_⟩
  simp [verifyEmailIdentity, view, Set.insert_def]

theorem right_sendEmail (source : String) (recipients : List String) (subject body : String) :
    m.Right (.sendEmail source recipients subject body) (m.sendEmail source) := by
  by_cases hin : source ∈ m.verified
  · refine ⟨fun h => absurd hin h, fun _ => ⟨⟨"message", ?_⟩, m.sent + 1, Int.lt_succ m.sent, ?_⟩⟩
    all_goals simp [sendEmail, hin, view]
  · refine ⟨fun _ => ?_, fun h => absurd h hin⟩
    simp [sendEmail, hin, Mock.SenderUnverified]

theorem right_getSendStatistics : m.Right .getSendStatistics m.getSendStatistics :=
  ⟨⟨_, rfl, Mail.exactTotal_replicate_one m.sent⟩, rfl⟩

theorem right_createTopic (name : String) : m.Right (.createTopic name) (m.createTopic name) := by
  intro h
  have hnone : m.topicNamed? name = none := by
    rw [topicNamed?, Option.map_eq_none_iff, List.find?_eq_none]
    rintro ⟨arn, n⟩ hmem hn
    obtain rfl := eq_of_beq hn
    exact h arn (HashMap.mem_toList_iff_getElem?_eq_some.1 hmem)
  refine ⟨fresh m.topics.keys, getElem?_fresh_keys m.topics, ?_⟩
  simp [createTopic, hnone, view_topics_insert]

theorem right_publish (arn : String) (subject : Option String) (message : String) :
    m.Right (.publish arn subject message) (m.publish arn) := by
  intro h
  have hin : arn ∈ m.topics := not_not.1 fun hout => h (held_eq_none_iff.2 hout)
  refine ⟨⟨"message", by decide, ?_⟩, ?_⟩
  all_goals simp [publish, hin]

theorem right_deleteTopic (arn : String) : m.Right (.deleteTopic arn) (m.deleteTopic arn) :=
  fun _ => ⟨rfl, m.view_topics_erase arn⟩

theorem right_createUserPool (name : String) :
    m.Right (.createUserPool name) (m.createUserPool name) := by
  refine fun _ => ⟨fresh m.pools.keys, ?_, rfl, ?_⟩
  · exact Option.map_eq_none_iff.2 (getElem?_fresh_keys m.pools)
  · simp [createUserPool, view_pools_insert, Pool.view, Mock.Pool.empty, held_empty]

theorem right_createUserPoolClient (id client : String) :
    m.Right (.createUserPoolClient id client) (m.createUserPoolClient id) := by
  intro pool h
  obtain ⟨p, hp, rfl⟩ := shown_eq_some_iff.1 h
  refine ⟨fresh p.clients, fresh_notMem p.clients, ?_, ?_⟩
  · simp [createUserPoolClient, hp]
  · simp [createUserPoolClient, hp, view_pools_insert, Pool.view, Mock.Pool.withClient,
      Set.insert_def]

theorem right_adminCreateUser (id username password : String) :
    m.Right (.adminCreateUser id username password) (m.adminCreateUser id username password) := by
  intro pool h hnew
  obtain ⟨p, hp, rfl⟩ := shown_eq_some_iff.1 h
  have hout : username ∉ p.accounts := held_eq_none_iff.1 hnew
  simp [adminCreateUser, hp, hout, view_pools_insert, Pool.view, Mock.Pool.withAccount, held_insert]

theorem right_adminSetUserPassword (id username password : String) :
    m.Right (.adminSetUserPassword id username password)
      (m.adminSetUserPassword id username password) := by
  intro pool h hthere
  obtain ⟨p, hp, rfl⟩ := shown_eq_some_iff.1 h
  have hin : username ∈ p.accounts := not_not.1 fun hout => hthere (held_eq_none_iff.2 hout)
  simp [adminSetUserPassword, hp, hin, view_pools_insert, Pool.view, Mock.Pool.withAccount,
    held_insert]

/-- A fresh token is not among those of any pool. -/
theorem tokens_fresh {id : String} {pool : Mock.Pool} (h : m.view.pools id = some pool) :
    pool.tokens (fresh m.tokens) = none := by
  obtain ⟨p, hp, rfl⟩ := shown_eq_some_iff.1 h
  refine held_eq_none_iff.2 fun hin => fresh_notMem m.tokens ?_
  exact List.mem_flatMap.2
    ⟨(id, p), HashMap.mem_toList_iff_getElem?_eq_some.2 hp, HashMap.mem_keys.2 hin⟩

theorem right_adminInitiateAuth (id client username password : String) :
    m.Right (.adminInitiateAuth id client username password)
      (m.adminInitiateAuth id client username password) := by
  intro pool h hclient haccount
  obtain ⟨p, hp, rfl⟩ := shown_eq_some_iff.1 h
  have hmem : client ∈ p.clients := hclient
  have hsome : p.accounts[username]? = some ⟨password, true⟩ := haccount
  refine ⟨fresh m.tokens, some "id", some "refresh", fun _ _ => m.tokens_fresh, ?_, ?_⟩
  · simp [adminInitiateAuth, hp, hsome, hmem]
  · simp [adminInitiateAuth, hp, hsome, hmem, view_pools_insert, Pool.view, Mock.Pool.withToken,
      held_insert]

/-- The pools are searched one after the other, and one at most has the token. -/
theorem right_getUser (token : String) : m.Right (.getUser token) (m.getUser token) := by
  intro id pool username h htoken honly
  obtain ⟨p, hp, rfl⟩ := shown_eq_some_iff.1 h
  have hfound : m.userOf? token = some username := by
    cases hu : m.userOf? token with
    | none =>
      have hnone : p.tokens[token]? = none := List.findSome?_eq_none_iff.1 hu (id, p)
        (HashMap.mem_toList_iff_getElem?_eq_some.2 hp)
      exact absurd (hnone.symm.trans htoken) (by simp)
    | some u =>
      obtain ⟨⟨id', p'⟩, hmem, hfirst⟩ := List.exists_of_findSome?_eq_some hu
      have hu' : p'.tokens[token]? = some u := hfirst
      have hp' : m.pools[id']? = some p' := HashMap.mem_toList_iff_getElem?_eq_some.1 hmem
      have hview : m.view.pools id' = some p'.view := shown_eq_some_iff.2 ⟨p', hp', rfl⟩
      obtain rfl : id' = id := honly id' p'.view hview (by simp [Pool.view, held, hu'])
      obtain rfl : p = p' := Option.some.inj (hp.symm.trans hp')
      exact hu'.symm.trans htoken
  simp [getUser, hfound]

theorem right_deleteUserPool (id : String) :
    m.Right (.deleteUserPool id) (m.deleteUserPool id) := by
  intro h
  have hin : id ∈ m.pools := not_not.1 fun hout => h (shown_eq_none_iff.2 hout)
  simp [deleteUserPool, hin, view_pools_erase]

end

/-- **The mock in memory is faithful**, whatever it has in memory. -/
theorem faithful : Faithful server view where
  answers m
    | .createTable table key => m.right_createTable table key
    | .deleteTable table => m.right_deleteTable table
    | .createBucket bucket location => m.right_createBucket bucket location
    | .headBucket bucket => m.right_headBucket bucket
    | .putObject bucket key body => m.right_putObject bucket key body
    | .getObject bucket key => m.right_getObject bucket key
    | .deleteObject bucket key => m.right_deleteObject bucket key
    | .deleteBucket bucket => m.right_deleteBucket bucket
    | .verifyEmailIdentity address => m.right_verifyEmailIdentity address
    | .sendEmail source recipients subject body => m.right_sendEmail source recipients subject body
    | .getSendStatistics => m.right_getSendStatistics
    | .createTopic name => m.right_createTopic name
    | .publish arn subject message => m.right_publish arn subject message
    | .deleteTopic arn => m.right_deleteTopic arn
    | .createUserPool name => m.right_createUserPool name
    | .createUserPoolClient id client => m.right_createUserPoolClient id client
    | .adminCreateUser id username password => m.right_adminCreateUser id username password
    | .adminSetUserPassword id username password =>
      m.right_adminSetUserPassword id username password
    | .adminInitiateAuth id client username password =>
      m.right_adminInitiateAuth id client username password
    | .getUser token => m.right_getUser token
    | .deleteUserPool id => m.right_deleteUserPool id
    | .describeTable _ | .listTables | .putItem .. | .getItem .. | .listBuckets | .listTopics
    | .listVerifiedEmailAddresses => trivial

theorem eq_add_one_of_counts {a b : Int} (h : Counts server view a b) : b = a + 1 := by
  obtain ⟨hlt, m, mail, rfl, rfl⟩ := h
  by_cases hin : mail.source ∈ m.verified
  · simp [server, sendEmail, hin, view]
  · simp [server, sendEmail, hin] at hlt

end Memory

end CloudRehearsal
