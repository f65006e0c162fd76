import CloudRehearsal.Proofs.Exchanges
import CloudRehearsal.Proofs.Trials
import CloudRehearsal.Sample.Scripts

/-!
What a script is told is what it names. Services invent identifiers, resource names, users and tokens;
whatever they are, a sample or a check hands them on unchanged and in the right places, at every point
of a run (`Script.hands_on`). Where nothing was invented, it keeps to the one name that it has drawn.

`Exchange.learned` reads off what has passed between the parties, and `Request.Follows` is the rule for
what is sent next. It is the same for every script, with two differences: the sample of users takes the
name of the user from the service, and one check sends mail from a sender who was never verified.
-/
namespace CloudRehearsal

open Checking Check

variable {σ α ε : Type}

/-! ## What there is to learn -/

/-- Something that is settled by an exchange, and must be named later. -/
inductive Learned where
  | pool (id : String)
  | client (id : String)
  | user (name : String)
  /-- The password of a user, which is permanent by the members of the request that sets it. -/
  | password (username password : String)
  | token (token : String)
  | topic (arn : String)
  /-- A verified sender. -/
  | sender (address : String)
  deriving DecidableEq, Repr

namespace Exchange

/-- What an exchange settles: nothing, unless the request has succeeded. -/
def learned : Exchange → List Learned
  | ⟨.createUserPool _, .output (some id)⟩ => [.pool id]
  | ⟨.createUserPoolClient .., .output (some id)⟩ => [.client id]
  | ⟨.adminCreateUser .., .output (some name)⟩ => [.user name]
  | ⟨.adminSetUserPassword _ username password, .output _⟩ => [.password username password]
  | ⟨.adminInitiateAuth .., .output ⟨none, some ⟨some token, _, _⟩⟩⟩ => [.token token]
  | ⟨.createTopic _, .output (some arn)⟩ => [.topic arn]
  | ⟨.verifyEmailIdentity address, .output _⟩ => [.sender address]
  | _ => []

/-- What has been settled by all that has passed. -/
def known (xs : List Exchange) : List Learned := xs.flatMap learned

theorem known_snoc (xs : List Exchange) (x : Exchange) : known (xs ++ [x]) = known xs ++ x.learned := by
  simp [known]

end Exchange

/-- What a method settles by its result. -/
def Method.lesson : (m : Method) → m.Result → List Learned
  | createPool _, id => [.pool id]
  | createClient .., id => [.client id]
  | createUser .., name => [.user name]
  | setPassword _ username password, _ => [.password username password]
  | authenticate .., tokens => [.token tokens.accessToken]
  | createTopic _, arn => [.topic arn]
  | verify address, _ => [.sender address]
  | _, _ => []

/-- What a method settles by what it comes to. -/
def Method.told (m : Method) : Except ClientError m.Result → List Learned
  | .ok a => m.lesson a
  | .error _ => []

/-- What an exchange settles can be told from what the method makes of it. -/
theorem Exchange.learned_eq (m : Method) (reply : Reply m.request.Output) :
    Exchange.learned ⟨m.request, reply⟩ = m.told (m.read reply) := by
  cases m with
  | createPool | createClient | createUser | createTopic =>
    rcases reply with (_ | _) | _ | _ <;> rfl
  | setPassword | verify => rcases reply with _ | _ | _ <;> rfl
  | authenticate =>
    rcases reply with ⟨_ | _, _ | ⟨_ | _, _, _⟩⟩ | _ | _ <;> rfl
  | _ =>
    generalize Method.read _ reply = r
    cases r <;> rfl

/-! ## What is named -/

/-- A sample or a check. -/
inductive Script where
  | sample (service : Service)
  | check (trial : Trial)
  deriving DecidableEq, Repr

/-- Exactly this one is known of its kind. -/
def Sole (known : List Learned) (kind : String → Learned) (value : String) : Prop :=
  ∀ v, kind v ∈ known ↔ v = value

namespace Request

/-- What a request of a script may name, when this has been learned so far and the script has drawn this
name. Tables and buckets have the drawn name. A pool, a client, a token, a topic and a sender is the one
that has been learned, and a user signs in with the password that was set for them. -/
def Follows (script : Script) (name : Option String) (known : List Learned) : Request → Prop
  | createTable table _ | describeTable table | putItem table _ | getItem table _ | deleteTable table =>
    name = some table
  | createBucket bucket _ | headBucket bucket | putObject bucket .. | getObject bucket _
  | deleteObject bucket _ | deleteBucket bucket => name = some bucket
  | publish arn .. | deleteTopic arn => Sole known .topic arn
  | createUserPoolClient pool _ | adminCreateUser pool .. | deleteUserPool pool => Sole known .pool pool
  | adminSetUserPassword pool username _ =>
    Sole known .pool pool ∧ (script = .sample .directory → Sole known .user username)
  | adminInitiateAuth pool client username password =>
    Sole known .pool pool ∧ Sole known .client client ∧
    (∀ v p, .password v p ∈ known ↔ v = username ∧ p = password) ∧
    (script = .sample .directory → Sole known .user username)
  | getUser token => Sole known .token token
  | sendEmail source .. =>
    -- the sender of this check must not be verified
    if script = .check .unverified then ∀ a, .sender a ∉ known else Sole known .sender source
  | createTopic topic => name = some topic
  | createUserPool pool => name = some pool
  | _ => True

end Request

open Exchange (known)

/-- Whatever has been sent followed the rule, in view of what was known when it was sent. -/
def Followed (script : Script) (name : Option String) (xs : List Exchange) : Prop :=
  ∀ before x after, xs = before ++ x :: after → x.request.Follows script name (known before)

section

variable {script : Script} {name : Option String} {xs : List Exchange} {told : List Learned}

theorem Followed.nil : Followed script name [] := by simp [Followed]

theorem Followed.snoc (h : Followed script name xs) {x : Exchange}
    (hx : x.request.Follows script name (known xs)) : Followed script name (xs ++ [x]) := by
  intro before y after e
  -- the exchange that is looked at is the new one, or stands before it
  rcases List.eq_nil_or_concat after with rfl | ⟨earlier, z, rfl⟩
  · obtain ⟨rfl, hy⟩ := List.append_inj' e rfl
    cases hy
    exact hx
  · rw [List.concat_eq_append, ← List.cons_append, ← List.append_assoc] at e
    obtain ⟨rfl, -⟩ := List.append_inj' e rfl
    exact h before y earlier rfl

/-! ## Steps -/

/-- The rule has been followed, and this is what is known. -/
structure Traced (script : Script) (name : Option String) (told : List Learned) (xs : List Exchange) :
    Prop where
  followed : Followed script name xs
  known : known xs = told

theorem Traced.nil : Traced script name [] [] := ⟨.nil, rfl⟩

/-- A method that follows the rule adds what it settles. -/
theorem Traced.call (h : Traced script name told xs) (m : Method) (hs : m.Sends)
    (hm : m.request.Follows script name told) :
    Course xs m.call fun r => Traced script name (told ++ m.told r) := by
  refine .call hs fun reply => ⟨h.followed.snoc ?_, ?_⟩
  · rw [h.known]
    exact hm
  · rw [Exchange.known_snoc, h.known, Exchange.learned_eq]

theorem Traced.step (h : Traced script name told xs) (m : Method) (hs : m.Sends)
    (hm : m.request.Follows script name told) {r : SampleReport} {action : String}
    {detail : m.Result → String} {f : m.Result → SampleReport → Call α}
    (next : ∀ a ys, Traced script name (told ++ m.lesson a) ys →
      Course ys (f a (r.add action (detail a))) fun _ => Followed script name) :
    Course xs (do let a ← m.call; let r ← r.step action (detail a); f a r)
      fun _ => Followed script name :=
  (h.call m hs hm).bind (fun a ys ha => .after (r.step_silent action (detail a)) (next a ys ha))
    fun _ _ he => he.followed

theorem Traced.stop (h : Traced script name told xs) (m : Method) (hs : m.Sends)
    (hm : m.request.Follows script name told) {r : SampleReport} {action : String}
    {detail : m.Result → String} :
    Course xs (do let a ← m.call; r.step action (detail a)) fun _ => Followed script name := by
  simpa only [bind_pure] using
    h.step m hs hm (f := fun _ r => pure r) fun _ _ ha => .pure ha.followed

theorem Traced.check (h : Traced script name told xs) (m : Method) (hs : m.Sends)
    (hm : m.request.Follows script name told) {f : m.Result → Checking α} {post : List Exchange → Prop}
    (hpost : ∀ ys, Traced script name told ys → post ys)
    (next : ∀ a ys, Traced script name (told ++ m.lesson a) ys → Course ys (f a) fun _ => post) :
    Course xs (ofCall m.call >>= f) fun _ => post := by
  have hc : Course xs (ofCall m.call) fun r ys =>
      ∃ r', r = r'.mapError .client ∧ Traced script name (told ++ m.told r') ys :=
    .ofCall ((h.call m hs hm).mono fun r _ hr => ⟨r, rfl, hr⟩)
  refine hc.bind ?_ ?_
  · rintro a ys ⟨_ | a', e, ha⟩
    · cases e
    · cases e
      exact next a ys ha
  · rintro e ys ⟨e' | _, _, he⟩
    · exact hpost ys (List.append_nil told ▸ he)
    · contradiction

/-- A step of a check that looks at the failure itself, and what follows it. -/
theorem Traced.look (h : Traced script name told xs) (m : Method) (hs : m.Sends)
    (hm : m.request.Follows script name told) {f : Except ClientError m.Result → Checking α}
    {post : List Exchange → Prop}
    (next : ∀ r ys, Traced script name (told ++ m.told r) ys → Course ys (f r) fun _ => post) :
    Course xs (ExceptT.lift m.call.run >>= f) fun _ => post := by
  have hc : Course xs (ExceptT.lift m.call.run : Checking (Except ClientError m.Result)) fun r ys =>
      ∃ r', r = .ok r' ∧ Traced script name (told ++ m.told r') ys :=
    .lift_run ((h.call m hs hm).mono fun r _ hr => ⟨r, rfl, hr⟩)
  refine hc.bind ?_ ?_
  · rintro r ys ⟨r', e, hr⟩
    rw [Except.ok.inj e]
    exact next r' ys hr
  · rintro _ _ ⟨_, he, -⟩
    cases he

theorem Traced.last (h : Traced script name told xs) (m : Method) (hs : m.Sends)
    (hm : m.request.Follows script name told) :
    Course xs (ofCall m.call) fun _ => Followed script name :=
  .ofCall ((h.call m hs hm).mono fun _ _ hr => hr.followed)

end

/-! ## Runs -/

/-- The program follows the rule on any server. -/
structure HandsOn (script : Script) (label : Option String) (p : ExceptT ε Session α) : Prop where
  run : ∀ {σ : Type} (server : Server σ) (ids : Nat → Uuid) (w : World σ), ∃ sent,
    (Session.attempt p server ids w).2.requests = w.requests ++ sent ∧
    Followed script (label.map (resourceName · (ids w.drawn))) (server.exchanges sent w.service)

theorem HandsOn.of_course {script : Script} {p : ExceptT ε Session α}
    (h : Course [] p fun _ => Followed script none) : HandsOn script none p := by
  refine ⟨fun server ids w => ?_⟩
  obtain ⟨result, sent, w', e, went, hfollowed⟩ := h.run server ids w
  exact ⟨sent, by rw [e, went.requests], hfollowed⟩

/-- The one name that is drawn is the name of the run. -/
theorem HandsOn.of_freshName {script : Script} {label : String} {f : String → ExceptT ε Session α}
    (h : ∀ name, name ≠ "" → Course [] (f name) fun _ => Followed script (some name)) :
    HandsOn script (some label) (ExceptT.lift (Session.freshName label) >>= f) := by
  refine ⟨fun server ids w => ?_⟩
  obtain ⟨result, sent, w', e, went, hfollowed⟩ :=
    (h _ (resourceName_ne_empty label (ids w.drawn))).run server ids w.drew
  refine ⟨sent, ?_, hfollowed⟩
  rw [Session.attempt_bind_ok (attempt_freshName label w), e, went.requests]
  rfl

/-! ## Samples -/

namespace Sample

theorem storage_handsOn (buckets : Buckets) :
    HandsOn (.sample .storage) (some "sample-bucket") (storage buckets) := by
  refine .of_freshName fun bucket hb => ?_
  have hk : "hello.txt" ≠ "" := by decide
  refine Traced.nil.step (.createBucket buckets bucket) (Method.sends_createBucket _ hb) rfl
    fun _ _ h => ?_
  refine h.step .listBuckets rfl trivial fun _ _ h => ?_
  refine h.step (.putText bucket "hello.txt" _) (Method.sends_putText hb hk _) rfl fun _ _ h => ?_
  refine h.step (.getText bucket "hello.txt") (Method.sends_getBytes hb hk) rfl fun _ _ h => ?_
  refine h.step (.deleteObject bucket "hello.txt") (Method.sends_deleteObject hb hk) rfl
    fun _ _ h => ?_
  exact h.stop (.deleteBucket bucket) (Method.sends_deleteBucket hb) rfl

theorem tableStore_handsOn : HandsOn (.sample .tableStore) (some "sample-table") tableStore := by
  refine .of_freshName fun table _ => ?_
  refine Traced.nil.step (.createTable table _) rfl rfl fun _ _ h => ?_
  refine h.step (.describeTable table) rfl rfl fun _ _ h => ?_
  refine h.step .listTables rfl trivial fun _ _ h => ?_
  refine h.step (.putItem table _ _ _ _) rfl rfl fun _ _ h => ?_
  refine h.step (.getItem table _ _ _) rfl rfl fun _ _ h => ?_
  exact h.stop (.deleteTable table) rfl rfl

theorem notification_handsOn :
    HandsOn (.sample .notification) (some "sample-topic") notification := by
  refine .of_freshName fun name _ => ?_
  refine Traced.nil.step (.createTopic name) rfl rfl fun arn _ h => ?_
  have harn : Sole [.topic arn] .topic arn := by simp [Sole]
  refine h.step .listTopics rfl trivial fun _ _ h => ?_
  refine h.step (.publish arn _ _) rfl harn fun _ _ h => ?_
  exact h.stop (.deleteTopic arn) rfl harn

theorem email_handsOn : HandsOn (.sample .email) none email := by
  refine .of_course ?_
  have hs : '@' ∈ "sender@example.com".toList := by decide
  have hr : '@' ∈ "recipient@example.com".toList := by decide
  refine Traced.nil.step (.verify _) rfl trivial fun _ _ h => ?_
  refine h.step .verifiedAddresses rfl trivial fun _ _ h => ?_
  refine h.step (.sendMail _) (EmailMessage.check_toOne hs hr _ _) ?_ fun _ _ h => ?_
  · simp [Request.Follows, Sole, Method.lesson, EmailMessage.toOne]
  exact h.stop .deliveryAttempts rfl trivial

theorem directory_handsOn : HandsOn (.sample .directory) (some "sample-pool") directory := by
  refine .of_freshName fun name _ => ?_
  refine Traced.nil.step (.createPool name) rfl rfl fun pool _ h => ?_
  refine h.step (.createClient pool _) rfl ?_ fun client _ h => ?_
  · simp [Request.Follows, Sole, Method.lesson]
  refine h.step (.createUser pool _ _) rfl ?_ fun username _ h => ?_
  · simp [Request.Follows, Sole, Method.lesson]
  refine h.step (.setPassword pool username _) rfl ?_ fun _ _ h => ?_
  · simp [Request.Follows, Sole, Method.lesson]
  refine h.step (.authenticate pool client username _) rfl ?_ fun tokens _ h => ?_
  · simp [Request.Follows, Sole, Method.lesson]
  refine h.step (.usernameFor tokens.accessToken) rfl ?_ fun _ _ h => ?_
  · simp [Request.Follows, Sole, Method.lesson]
  refine h.stop (.deletePool pool) rfl ?_
  simp [Request.Follows, Sole, Method.lesson]

end Sample

/-! ## Checks -/

namespace Trial

variable {name : String} (clients : Clients)

/-- The second creation is to fail, so its failure is looked at. -/
theorem traced_tableAssertions {xs : List Exchange} (h : Traced (.check .table) (some name) [] xs)
    (created : String) :
    Course xs (tableAssertions name created) fun _ => Traced (.check .table) (some name) [] := by
  refine Course.bind (.ensure fun _ => h) (fun _ ys h => ?_) fun _ _ h => h
  refine h.look (.createTable name _) rfl rfl fun r ys h => ?_
  have h : Traced (.check .table) (some name) [] ys := by cases r <;> exact h
  split
  · exact .throw h
  · exact .ensure fun _ => h
  · exact .throw h

theorem followed_table :
    Course [] (table.work clients name) fun _ => Followed (.check .table) (some name) := by
  refine Traced.nil.check (.createTable name _) rfl rfl (fun _ h => h.followed) fun created _ h => ?_
  exact (traced_tableAssertions h created).always fun _ _ h => h.last (.deleteTable name) rfl rfl

/-- Nothing is learned about an object that must be named later. -/
theorem traced_objectAssertions {bucket key : String} (hb : bucket ≠ "") (hk : key ≠ "")
    {xs : List Exchange} (h : Traced (.check .object) (some bucket) [] xs) (content : String) :
    Course xs (objectAssertions bucket key content)
      fun _ => Traced (.check .object) (some bucket) [] := by
  refine h.check (.putText bucket key content) (Method.sends_putText hb hk _) rfl (fun _ h => h)
    fun _ _ h => ?_
  refine h.check (.getBytes bucket key) (Method.sends_getBytes hb hk) rfl (fun _ h => h) fun _ _ h => ?_
  exact .ensure fun _ => h

theorem followed_object (hn : name ≠ "") :
    Course [] (object.work clients name) fun _ => Followed (.check .object) (some name) := by
  have hk : "round-trip.txt" ≠ "" := by decide
  refine Traced.nil.check (.createBucket clients.buckets name) (Method.sends_createBucket _ hn) rfl
    (fun _ h => h.followed) fun _ _ h => ?_
  refine (traced_objectAssertions hn hk h _).always fun _ _ h => ?_
  unfold removeBucket
  rw [ofCall_bind]
  refine h.check (.deleteObject name _) (Method.sends_deleteObject hn hk) rfl (fun _ h => h.followed)
    fun _ _ h => ?_
  exact h.last (.deleteBucket name) (Method.sends_deleteBucket hn) rfl

theorem followed_bucket (hn : name ≠ "") :
    Course [] (bucket.work clients name) fun _ => Followed (.check .bucket) (some name) := by
  have hc := Method.sends_containsBucket hn
  refine Traced.nil.check (.createBucket clients.buckets name) (Method.sends_createBucket _ hn) rfl
    (fun _ h => h.followed) fun _ _ h => ?_
  refine h.check (.containsBucket name) hc rfl (fun _ h => h.followed) fun _ _ h => ?_
  refine Course.bind (.ensure fun _ => h) (fun _ _ h => ?_) fun _ _ h => h.followed
  refine h.check (.deleteBucket name) (Method.sends_deleteBucket hn) rfl (fun _ h => h.followed)
    fun _ _ h => ?_
  refine h.check (.containsBucket name) hc rfl (fun _ h => h.followed) fun _ _ h => ?_
  exact .ensure fun _ => h.followed

theorem at_mem_recipient : '@' ∈ "recipient@example.com".toList := by decide

theorem followed_unverified :
    Course [] (unverified.work clients name) fun _ => Followed (.check .unverified) (some name) := by
  have hs := EmailMessage.check_toOne (at_mem_stranger name) at_mem_recipient
  have start : Traced (.check .unverified) (some name) [] [] := .nil
  refine start.look (.sendMail _) (hs _ _) ?_ fun r ys h => ?_
  · simp [Request.Follows]
  · split
    · exact .throw h.followed
    · exact .ensure fun _ => h.followed
    · exact .throw h.followed

theorem followed_countedMail :
    Course [] (countedMail name) fun _ => Followed (.check .verified) (some name) := by
  have hs := EmailMessage.check_toOne (at_mem_sender name) at_mem_recipient
  refine Traced.nil.check .deliveryAttempts rfl trivial (fun _ h => h.followed) fun before _ h => ?_
  refine h.check (.verify (sender name)) rfl trivial (fun _ h => h.followed) fun _ _ h => ?_
  refine h.check (.sendMail _) (hs _ _) ?_ (fun _ h => h.followed) fun _ _ h => ?_
  · simp [Request.Follows, Sole, Method.lesson, EmailMessage.toOne]
  refine h.check .deliveryAttempts rfl trivial (fun _ h => h.followed) fun after _ h => ?_
  exact .pure h.followed

theorem followed_verified :
    Course [] (verified.work clients name) fun _ => Followed (.check .verified) (some name) :=
  (followed_countedMail).bind (fun _ _ h => .ensure fun _ => h) fun _ _ h => h

theorem followed_topic :
    Course [] (topic.work clients name) fun _ => Followed (.check .topic) (some name) := by
  refine Traced.nil.check (.createTopic name) rfl rfl (fun _ h => h.followed) fun arn _ h => ?_
  have harn : Sole [.topic arn] .topic arn := by simp [Sole]
  have after : ∀ (r : Except CheckError Unit) ys, Traced (.check .topic) (some name) [.topic arn] ys →
      Course ys (ofCall (Topics.delete arn)) fun _ => Followed (.check .topic) (some name) :=
    fun _ _ h => h.last (.deleteTopic arn) rfl harn
  refine Course.always ?_ after
  refine h.check (.publish arn _ _) rfl harn (fun _ h => h) fun _ _ h => ?_
  exact .ensure fun _ => h

/-- However far this has come, the one pool is known, for the clean-up to name. -/
theorem followed_authenticationAssertions {pool : String} {xs : List Exchange}
    (h : Traced (.check .user) (some name) [.pool pool] xs) :
    Course xs (authenticationAssertions pool) fun _ ys =>
      Followed (.check .user) (some name) ys ∧ Sole (known ys) .pool pool := by
  have holds : ∀ {told ys}, Traced (.check .user) (some name) told ys → Sole told .pool pool →
      Followed (.check .user) (some name) ys ∧ Sole (known ys) .pool pool :=
    fun h hp => ⟨h.followed, h.known ▸ hp⟩
  have hp : Sole [.pool pool] .pool pool := by simp [Sole]
  refine h.check (.createClient pool _) rfl hp (fun _ h => holds h hp) fun client _ h => ?_
  have hp : Sole [.pool pool, .client client] .pool pool := by simp [Sole]
  refine h.check (.createUser pool _ _) rfl hp (fun _ h => holds h hp) fun created _ h => ?_
  have hp : Sole [.pool pool, .client client, .user created] .pool pool := by simp [Sole]
  refine h.check (.setPassword pool "check-user" _) rfl ⟨hp, nofun⟩ (fun _ h => holds h hp)
    fun _ _ h => ?_
  have hp : Sole [.pool pool, .client client, .user created,
    .password "check-user" "Permanent-Pass1!"] .pool pool := by simp [Sole]
  refine h.check (.authenticate pool client "check-user" _) rfl ⟨hp, ?_, ?_, nofun⟩
    (fun _ h => holds h hp) fun tokens _ h => ?_
  · simp [Sole, Method.lesson]
  · simp [Method.lesson]
  have hp : Sole [.pool pool, .client client, .user created,
    .password "check-user" "Permanent-Pass1!", .token tokens.accessToken] .pool pool := by
      simp [Sole]
  refine h.check (.usernameFor tokens.accessToken) rfl ?_ (fun _ h => holds h hp) fun _ _ h => ?_
  · simp [Request.Follows, Sole, Method.lesson]
  exact .ensure fun _ => holds h hp

theorem followed_user :
    Course [] (user.work clients name) fun _ => Followed (.check .user) (some name) := by
  refine Traced.nil.check (.createPool name) rfl rfl (fun _ h => h.followed) fun pool _ h => ?_
  refine (followed_authenticationAssertions h).always fun _ ys ⟨hf, hp⟩ => ?_
  exact (⟨hf, rfl⟩ : Traced _ _ (known ys) ys).last (.deletePool pool) rfl hp

theorem work_followed (t : Trial) (hn : name ≠ "") :
    Course [] (t.work clients name) fun _ => Followed (.check t) (some name) := by
  cases t with
  | table => exact followed_table clients
  | object => exact followed_object clients hn
  | bucket => exact followed_bucket clients hn
  | unverified => exact followed_unverified clients
  | verified => exact followed_verified clients
  | topic => exact followed_topic clients
  | user => exact followed_user clients

end Trial

/-! ## Every script -/

namespace Script

/-- What the name of a run begins with, when one is drawn. -/
def label : Script → Option String
  | sample .storage => some "sample-bucket"
  | sample .tableStore => some "sample-table"
  | sample .notification => some "sample-topic"
  | sample .email => none
  | sample .directory => some "sample-pool"
  | check t => some t.label

/-- What a script leaves when it is run. -/
def left (clients : Clients) (server : Server σ) (ids : Nat → Uuid) (w : World σ) : Script → World σ
  | sample s => (Session.attempt (Sample.run clients s) server ids w).2
  | check t => (Session.attempt (t.check clients).body server ids w).2

/-- **Whatever a service invents is handed on.** At every point of the run of a script, on any server,
the request that is sent names what has been learned before: the pool, the client and its user with the
password that was set, the token, the topic, the verified sender; and tables and buckets have the one
name that was drawn for the run. -/
theorem hands_on (script : Script) (clients : Clients) (server : Server σ) (ids : Nat → Uuid)
    (w : World σ) :
    ∃ sent, (script.left clients server ids w).requests = w.requests ++ sent ∧
      ∀ before x after, server.exchanges sent w.service = before ++ x :: after →
        x.request.Follows script (script.label.map (resourceName · (ids w.drawn)))
          (known before) := by
  cases script with
  | sample s =>
    cases s with
    | storage => exact (Sample.storage_handsOn clients.buckets).run server ids w
    | tableStore => exact Sample.tableStore_handsOn.run server ids w
    | notification => exact Sample.notification_handsOn.run server ids w
    | email => exact Sample.email_handsOn.run server ids w
    | directory => exact Sample.directory_handsOn.run server ids w
  | check t =>
    have h : HandsOn (.check t) (some t.label) (t.check clients).body := by
      rw [t.body_eq]
      exact .of_freshName fun _ hn => t.work_followed clients hn
    exact h.run server ids w

end Script

end CloudRehearsal
