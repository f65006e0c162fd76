import CloudRehearsal.Proofs.Accounts
import CloudRehearsal.Proofs.Exchanges
import CloudRehearsal.Sample.Scripts

/-!
The samples on any server whatever. A sample is a fixed sequence of requests; it stops at the first reply
that is of no use, with the error of that reply, and otherwise reports one step for each request
(`Sample.Accounted`). All samples are the samples one after the other, up to the first that fails.

`Exchange.error?` says which replies are of no use, and what their errors are. One lemma covers every
step of every sample (`Sample.Stands.step`).
-/
namespace CloudRehearsal

/-! ## Replies of no use -/

/-- What keeps an object from being read as a text, if anything. -/
def Body.unread? : Body → Option ClientError
  | broken => some (.body "streaming error")
  | complete bytes =>
    match Text.Utf8.text? bytes with
    | .ok _ => none
    | .error fault => some (.body fault.message)

namespace Request

/-- What a failure of a request means. -/
def explain : Request → SendError → ClientError
  | createTable table _ => .ofCreateTable table
  | describeTable table => .ofDescribeTable table
  | createBucket bucket _ => .ofCreateBucket bucket
  | getObject bucket key => .ofGetObject bucket key
  | sendEmail source .. => .ofSendEmail source
  | adminCreateUser _ username _ => .ofAdminCreateUser username
  | r => .ofSend r.operation.name

/-- What a successful response lacks, if anything: a member that must be there, a body that holds a
text, or a sign-in without a challenge. -/
def lack? : (r : Request) → r.Output → Option ClientError
  | createTable .., none => some (.missingField "TableDescription.TableName")
  | describeTable .., none => some (.missingField "Table.TableName")
  | createTopic .., none => some (.missingField "TopicArn")
  | publish .., none => some (.missingField "MessageId")
  | createUserPool .., none => some (.missingField "UserPool.Id")
  | createUserPoolClient .., none => some (.missingField "UserPoolClient.ClientId")
  | adminCreateUser .., none => some (.missingField "User.Username")
  | getObject .., body => body.unread?
  | adminInitiateAuth .., ⟨some challenge, _⟩ => some (.challengeRequired challenge)
  | adminInitiateAuth .., ⟨none, none⟩ => some (.missingField "AuthenticationResult")
  | adminInitiateAuth .., ⟨none, some ⟨none, _, _⟩⟩ =>
    some (.missingField "AuthenticationResult.AccessToken")
  | _, _ => none

end Request

/-- The error of a reply that is of no use. -/
def Exchange.error? (x : Exchange) : Option ClientError :=
  match x.reply.result with
  | .ok o => x.request.lack? o
  | .error e => some (x.request.explain e)

/-- The error of a result that is one. -/
def errorOf {ε α : Type} : Except ε α → Option ε
  | .ok _ => none
  | .error e => some e

namespace Method

/-- The samples read objects as text, and never ask whether a bucket exists. -/
def InSamples : Method → Prop
  | getBytes .. | containsBucket _ => False
  | _ => True

/-- The two ways in which reading an object's text fails. -/
theorem unread?_eq (body : Body) : body.unread? = errorOf (bytesOf body >>= textOf) := by
  cases body with
  | broken => rfl
  | complete bytes =>
    show _ = errorOf (textOf bytes)
    simp only [textOf, Body.unread?]
    cases Text.Utf8.text? bytes <;> rfl

section

variable {m : Method} (hm : m.InSamples)
include hm

theorem lack?_eq (o : m.request.Output) : m.request.lack? o = errorOf (m.take o) := by
  cases m with
  | createTable | describeTable | createTopic | publish | createPool | createClient | createUser =>
    cases o <;> rfl
  | getText => exact unread?_eq o
  | authenticate =>
    obtain ⟨challenge | challenge, result | ⟨token | token, _, _⟩⟩ := o <;> rfl
  | getBytes | containsBucket => exact hm.elim
  | _ => rfl

theorem explain_request : m.request.explain = m.explain := by
  cases m with
  | getBytes | containsBucket => exact hm.elim
  | _ => rfl

/-- What a method of the samples makes of a reply is an error exactly when the reply is of no use. -/
theorem error?_eq (reply : Reply m.request.Output) :
    Exchange.error? ⟨m.request, reply⟩ = errorOf (m.read reply) := by
  unfold Exchange.error? read receive
  cases reply.result with
  | ok o => exact lack?_eq hm o
  | error e =>
    have hf : m.fail e = .error (m.explain e) := by
      refine fail_eq_error ?_
      rintro bucket rfl
      exact hm.elim
    simp only [hf, errorOf, explain_request hm]

end

end Method

/-! ## The sequence of a sample -/

/-- What the samples call an operation in their reports. -/
def Operation.action : Operation → String
  | .createTable => "create_table"
  | .describeTable => "describe_table"
  | .listTables => "list_tables"
  | .putItem => "put_item"
  | .getItem => "get_item"
  | .deleteTable => "delete_table"
  | .createBucket => "create_bucket"
  | .headBucket => "head_bucket"
  | .listBuckets => "list_buckets"
  | .putObject => "put_object"
  | .getObject => "get_object"
  | .deleteObject => "delete_object"
  | .deleteBucket => "delete_bucket"
  | .createTopic => "create_topic"
  | .listTopics => "list_topics"
  | .publish => "publish"
  | .deleteTopic => "delete_topic"
  | .verifyEmailIdentity => "verify_email_identity"
  | .listVerifiedEmailAddresses => "list_verified_addresses"
  | .sendEmail => "send_email"
  | .getSendStatistics => "get_send_statistics"
  | .createUserPool => "create_user_pool"
  | .createUserPoolClient => "create_user_pool_client"
  | .adminCreateUser => "admin_create_user"
  | .adminSetUserPassword => "admin_set_user_password"
  | .adminInitiateAuth => "admin_initiate_auth"
  | .getUser => "get_user"
  | .deleteUserPool => "delete_user_pool"

namespace Sample

/-- The operations that a sample asks for, in order. -/
def sequence : Service → List Operation
  | .storage => [.createBucket, .listBuckets, .putObject, .getObject, .deleteObject, .deleteBucket]
  | .tableStore => [.createTable, .describeTable, .listTables, .putItem, .getItem, .deleteTable]
  | .notification => [.createTopic, .listTopics, .publish, .deleteTopic]
  | .email => [.verifyEmailIdentity, .listVerifiedEmailAddresses, .sendEmail, .getSendStatistics]
  | .directory =>
    [.createUserPool, .createUserPoolClient, .adminCreateUser, .adminSetUserPassword,
      .adminInitiateAuth, .getUser, .deleteUserPool]

/-- How a sample stands when `n` steps have been done: all has gone well, and the report says so. -/
structure Stands (s : Service) (n : Nat) (r : SampleReport) (xs : List Exchange) : Prop where
  operations : xs.map (·.request.operation) = (sequence s).take n
  usable : ∀ x ∈ xs, x.error? = none
  service : r.service = s
  actions : r.steps.map (·.action) = xs.map (·.request.operation.action)

/-- How a sample ends: with a step for every operation, or with the first reply that is of no use. -/
def Ends (s : Service) : Except ClientError SampleReport → List Exchange → Prop
  | .ok r, xs => Stands s (sequence s).length r xs
  | .error e, xs => ∃ before x, xs = before ++ [x] ∧
      xs.map (·.request.operation) <+: sequence s ∧ (∀ y ∈ before, y.error? = none) ∧
      x.error? = some e

theorem Stands.empty (s : Service) : Stands s 0 (.empty s) [] := ⟨rfl, by simp, rfl, rfl⟩

theorem Stands.step {s : Service} {n : Nat} {r : SampleReport} {xs : List Exchange}
    (h : Stands s n r xs) (m : Method) (hs : m.Sends) (hm : m.InSamples)
    (hop : (sequence s)[n]? = some m.request.operation) {action : String}
    (ha : action = m.request.operation.action) {detail : m.Result → String}
    {f : m.Result → SampleReport → Call SampleReport}
    (next : ∀ a ys, Stands s (n + 1) (r.add action (detail a)) ys →
      Course ys (f a (r.add action (detail a))) (Ends s)) :
    Course xs (do let a ← m.call; let r ← r.step action (detail a); f a r) (Ends s) := by
  have hops : ∀ reply : Reply m.request.Output,
      (xs ++ [(⟨m.request, reply⟩ : Exchange)]).map (·.request.operation) =
        (sequence s).take (n + 1) := by
    intro reply
    rw [List.map_append, h.operations, List.take_add_one, hop]
    rfl
  refine .call_bind hs ?_ ?_
  · intro a reply hr
    refine .after (r.step_silent action (detail a)) (next a _ ⟨hops reply, ?_, h.service, ?_⟩)
    · intro x hx
      rcases List.mem_append.1 hx with hx | hx
      · exact h.usable x hx
      · rw [List.mem_singleton.1 hx, Method.error?_eq hm, hr]
        rfl
    · simp [SampleReport.add, h.actions, ha]
  · intro e reply hr
    refine ⟨xs, _, rfl, ?_, h.usable, ?_⟩
    · rw [hops]
      exact List.take_prefix _ _
    · rw [Method.error?_eq hm, hr]
      rfl

theorem Stands.last {s : Service} {n : Nat} {r : SampleReport} {xs : List Exchange}
    (h : Stands s n r xs) (m : Method) (hs : m.Sends) (hm : m.InSamples)
    (hop : (sequence s)[n]? = some m.request.operation) (hn : (sequence s).length = n + 1)
    {action : String} (ha : action = m.request.operation.action) {detail : m.Result → String} :
    Course xs (do let a ← m.call; r.step action (detail a)) (Ends s) := by
  have hc : Course xs (do let a ← m.call; let r ← r.step action (detail a); pure r) (Ends s) := by
    refine h.step m hs hm hop ha fun a ys hy => .pure ?_
    unfold Ends
    rw [hn]
    exact hy
  simpa only [bind_pure] using hc

theorem course_storage (buckets : Buckets) : Course [] (storage buckets) (Ends .storage) := by
  refine .freshName_bind fun u => ?_
  have hb := resourceName_ne_empty "sample-bucket" u
  have hk : "hello.txt" ≠ "" := by decide
  refine (Stands.empty _).step (.createBucket buckets _) (Method.sends_createBucket _ hb) trivial rfl
    rfl fun _ _ h => ?_
  refine h.step .listBuckets rfl trivial rfl rfl fun _ _ h => ?_
  refine h.step (.putText _ "hello.txt" _) (Method.sends_putText hb hk _) trivial rfl rfl
    fun _ _ h => ?_
  refine h.step (.getText _ "hello.txt") (Method.sends_getBytes hb hk) trivial rfl rfl fun _ _ h => ?_
  refine h.step (.deleteObject _ "hello.txt") (Method.sends_deleteObject hb hk) trivial rfl rfl
    fun _ _ h => ?_
  exact h.last (.deleteBucket _) (Method.sends_deleteBucket hb) trivial rfl rfl rfl

theorem course_tableStore : Course [] tableStore (Ends .tableStore) := by
  refine .freshName_bind fun u => ?_
  refine (Stands.empty _).step (.createTable _ _) rfl trivial rfl rfl fun _ _ h => ?_
  refine h.step (.describeTable _) rfl trivial rfl rfl fun _ _ h => ?_
  refine h.step .listTables rfl trivial rfl rfl fun _ _ h => ?_
  refine h.step (.putItem _ _ _ _ _) rfl trivial rfl rfl fun _ _ h => ?_
  refine h.step (.getItem _ _ _ _) rfl trivial rfl rfl fun _ _ h => ?_
  exact h.last (.deleteTable _) rfl trivial rfl rfl rfl

theorem course_notification : Course [] notification (Ends .notification) := by
  refine .freshName_bind fun u => ?_
  refine (Stands.empty _).step (.createTopic _) rfl trivial rfl rfl fun arn _ h => ?_
  refine h.step .listTopics rfl trivial rfl rfl fun _ _ h => ?_
  refine h.step (.publish arn _ _) rfl trivial rfl rfl fun _ _ h => ?_
  exact h.last (.deleteTopic arn) rfl trivial rfl rfl rfl

theorem course_email : Course [] email (Ends .email) := by
  have hs : '@' ∈ "sender@example.com".toList := by decide
  have hr : '@' ∈ "recipient@example.com".toList := by decide
  refine (Stands.empty _).step (.verify _) rfl trivial rfl rfl fun _ _ h => ?_
  refine h.step .verifiedAddresses rfl trivial rfl rfl fun _ _ h => ?_
  refine h.step (.sendMail _) (EmailMessage.check_toOne hs hr _ _) trivial rfl rfl fun _ _ h => ?_
  exact h.last .deliveryAttempts rfl trivial rfl rfl rfl

theorem course_directory : Course [] directory (Ends .directory) := by
  refine .freshName_bind fun u => ?_
  refine (Stands.empty _).step (.createPool _) rfl trivial rfl rfl fun pool _ h => ?_
  refine h.step (.createClient pool _) rfl trivial rfl rfl fun client _ h => ?_
  refine h.step (.createUser pool _ _) rfl trivial rfl rfl fun username _ h => ?_
  refine h.step (.setPassword pool username _) rfl trivial rfl rfl fun _ _ h => ?_
  refine h.step (.authenticate pool client username _) rfl trivial rfl rfl fun tokens _ h => ?_
  refine h.step (.usernameFor tokens.accessToken) rfl trivial rfl rfl fun _ _ h => ?_
  exact h.last (.deletePool pool) rfl trivial rfl rfl rfl

/-! ## A sample -/

/-- What a sample has come to, in view of what has passed between it and the server. -/
structure Accounted (s : Service) (result : Except ClientError SampleReport) (xs : List Exchange) :
    Prop where
  /-- Its requests are those of its sequence, in order. -/
  in_sequence : xs.map (·.request.operation) <+: sequence s
  /-- Nothing is sent after a reply that is of no use. -/
  usable : ∀ x ∈ xs.dropLast, x.error? = none
  /-- It succeeds when it has sent them all, and every reply was of use. -/
  succeeds : (∃ r, result = .ok r) ↔
    xs.map (·.request.operation) = sequence s ∧ ∀ x ∈ xs, x.error? = none
  /-- The report has one step for each request. -/
  report : ∀ r, result = .ok r →
    r.service = s ∧ r.steps.map (·.action) = xs.map (·.request.operation.action)
  /-- The error is that of the last request. -/
  error : ∀ e, result = .error e → ∃ x, xs.getLast? = some x ∧ x.error? = some e

theorem Ends.accounted {s : Service} {result : Except ClientError SampleReport} {xs : List Exchange}
    (h : Ends s result xs) : Accounted s result xs := by
  cases result with
  | ok r =>
    have hops : xs.map (·.request.operation) = sequence s := by
      rw [h.operations, List.take_length]
    exact {
      in_sequence := hops ▸ List.prefix_rfl
      usable := fun x hx => h.usable x (List.dropLast_subset _ hx)
      succeeds := iff_of_true ⟨r, rfl⟩ ⟨hops, h.usable⟩
      report := by
        rintro _ ⟨⟩
        exact ⟨h.service, h.actions⟩
      error := fun _ he => nomatch he }
  | error e =>
    obtain ⟨before, x, rfl, hops, husable, hfails⟩ := h
    exact {
      in_sequence := hops
      usable := by simpa using husable
      succeeds := by
        refine iff_of_false (fun ⟨_, hr⟩ => nomatch hr) fun ⟨_, hall⟩ => ?_
        exact nomatch (hall x (by simp)).symm.trans hfails
      report := fun _ hr => nomatch hr
      error := by
        rintro _ ⟨⟩
        exact ⟨x, by simp, hfails⟩ }

/-! ## All samples -/

variable {σ : Type} (clients : Clients) (server : Server σ) (ids : Nat → Uuid)

/-- The run of a sample alone: what it comes to, and the world after it with its own account. -/
def alone (s : Service) (w : World σ) : Except ClientError SampleReport × World σ :=
  Session.attempt (run clients s) server ids w.afresh

/-- The runs of samples, each alone in the state that the one before it has left. -/
def inTurn : List Service → World σ → List (Except ClientError SampleReport × World σ)
  | [], _ => []
  | s :: ss, w => alone clients server ids s w :: inTurn ss (alone clients server ids s w).2

theorem inTurn_congr {w w' : World σ} (h : w'.afresh = w.afresh) (ss : List Service) :
    inTurn clients server ids ss w' = inTurn clients server ids ss w := by
  cases ss with
  | nil => rfl
  | cons s ss =>
    simp only [inTurn, alone]
    rw [h]

/-- What runs come to up to the first that fails, and what they have sent. -/
def tally : List (Except ClientError SampleReport × World σ) →
    Except ClientError (List SampleReport) × List Request
  | [] => (.ok [], [])
  | (.error e, own) :: _ => (.error e, own.requests)
  | (.ok r, own) :: later => ((tally later).1.map (r :: ·), own.requests ++ (tally later).2)

section

variable {runs : List (Except ClientError SampleReport × World σ)}

theorem tally_of_ok {reports : List SampleReport} (h : runs.map (·.1) = reports.map .ok) :
    tally runs = (.ok reports, runs.flatMap (·.2.requests)) := by
  induction runs generalizing reports with
  | nil =>
    cases reports with
    | nil => rfl
    | cons r reports => cases h
  | cons run runs ih =>
    cases reports with
    | nil => cases h
    | cons r reports =>
      obtain ⟨result, own⟩ := run
      obtain ⟨rfl, hlater⟩ := List.cons.inj h
      rw [tally, ih hlater]
      rfl

theorem tally_eq_ok_iff {reports : List SampleReport} :
    (tally runs).1 = .ok reports ↔ runs.map (·.1) = reports.map .ok := by
  refine ⟨fun h => ?_, fun h => congrArg Prod.fst (tally_of_ok h)⟩
  induction runs generalizing reports with
  | nil =>
    cases h
    rfl
  | cons run runs ih =>
    obtain ⟨_ | r, own⟩ := run
    · cases h
    · cases hl : (tally runs).1 with
      | error e =>
        rw [tally, hl] at h
        cases h
      | ok later =>
        rw [tally, hl] at h
        cases h
        exact congrArg (.ok r :: ·) (ih hl)

/-- The first failure counts, and what comes after it is as if it were not there. -/
theorem tally_of_error {i : Nat} {e : ClientError} (h : (runs.map (·.1))[i]? = some (.error e))
    (hbefore : ∀ j < i, ∃ r, (runs.map (·.1))[j]? = some (.ok r)) :
    tally runs = (.error e, (runs.take (i + 1)).flatMap (·.2.requests)) := by
  induction runs generalizing i with
  | nil => cases h
  | cons run runs ih =>
    obtain ⟨result, own⟩ := run
    cases i with
    | zero =>
      cases h
      simp [tally]
    | succ i =>
      obtain ⟨r, hr⟩ := hbefore 0 (by omega)
      cases hr
      have hlater := ih (i := i) h fun j hj => hbefore (j + 1) (by omega)
      rw [tally, hlater]
      rfl

end

/-- Samples one after the other do what they do alone, in turn, up to the first that fails. -/
theorem attempt_mapM_run (ss : List Service) (w : World σ) :
    ∃ w', Session.attempt (ss.mapM (run clients)) server ids w =
        ((tally (inTurn clients server ids ss w)).1, w') ∧
      w'.requests = w.requests ++ (tally (inTurn clients server ids ss w)).2 := by
  induction ss generalizing w with
  | nil => exact ⟨w, rfl, by simp [inTurn, tally]⟩
  | cons s ss ih =>
    have hs : Session.attempt (run clients s) server ids w =
        ((alone clients server ids s w).1, World.onto w (alone clients server ids s w).2) :=
      Session.run_eq_onto (run clients s).run server ids w
    rw [List.mapM_cons, inTurn]
    generalize ha : alone clients server ids s w = one at hs
    obtain ⟨_ | r, own⟩ := one
    · exact ⟨_, Session.attempt_bind_error hs, rfl⟩
    · obtain ⟨w', e, hr⟩ := ih (World.onto w own)
      have hafter : (World.onto w own).afresh = own.afresh := rfl
      rw [inTurn_congr clients server ids hafter] at e hr
      rw [Session.attempt_bind_ok hs, tally]
      refine ⟨w', ?_, ?_⟩
      · cases hl : (tally (inTurn clients server ids ss own)).1 with
        | error err =>
          rw [hl] at e
          exact Session.attempt_bind_error e
        | ok reports =>
          rw [hl] at e
          exact Session.attempt_bind_ok e
      · rw [hr, ← List.append_assoc]
        rfl

theorem course_run (s : Service) : Course [] (run clients s) (Ends s) := by
  cases s with
  | storage => exact course_storage clients.buckets
  | tableStore => exact course_tableStore
  | notification => exact course_notification
  | email => exact course_email
  | directory => exact course_directory

end Sample
end CloudRehearsal
