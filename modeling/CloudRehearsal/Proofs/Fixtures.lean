import CloudRehearsal.Check.Suite
import CloudRehearsal.Proofs.Checking
import CloudRehearsal.Proofs.OneRequest

/-!
The checks that make a resource, work on it, and delete it: a table, a topic, a pool of users. The
resource is deleted exactly when it has been made, by the last request of the check and by no other; the
failure that is reported is the first (`Fixture.deleted_iff_made`).

What the service replies is left open throughout. `SendsOnly` says which requests a check may send
whatever the replies are, with one rule for each step that checks are made of.
-/
namespace CloudRehearsal

open Checking

/-! ## The requests that may be sent -/

variable {σ α β ε : Type} {P : Request → Prop}

theorem Call.Asks.requests {c : Call α} {r : Request} {read : Reply r.Output → Except ClientError α}
    (h : c.Asks r read) (server : Server σ) (ids : Nat → Uuid) (w : World σ) :
    (Session.attempt c server ids w).2.requests = w.requests ++ [r] := by
  obtain ⟨w', he, n⟩ := h.run server ids w
  rw [he]
  exact n.requests

namespace Method

variable (m : Method)

theorem requests_of_refused (h : m.Refused) (server : Server σ) (ids : Nat → Uuid) (w : World σ) :
    (Session.attempt m.call server ids w).2.requests = w.requests := by
  obtain ⟨e, hs⟩ := silent h
  obtain ⟨w', he, n⟩ := hs.run server ids w
  rw [he, n.requests]

theorem requests_of_not_refused (h : ¬ m.Refused) (server : Server σ) (ids : Nat → Uuid)
    (w : World σ) :
    (Session.attempt m.call server ids w).2.requests = w.requests ++ [m.request] :=
  (m.asks (sends_of_not_refused h)).requests server ids w

end Method

/-- Whatever the program meets, all that it sends satisfies `P`. -/
structure SendsOnly (P : Request → Prop) (p : ExceptT ε Session α) : Prop where
  run : ∀ {σ : Type} (server : Server σ) (ids : Nat → Uuid) (w : World σ),
    ∃ sent, (Session.attempt p server ids w).2.requests = w.requests ++ sent ∧ ∀ r ∈ sent, P r

namespace SendsOnly

theorem pure (a : α) : SendsOnly P (Pure.pure a : ExceptT ε Session α) :=
  ⟨fun _ _ w => ⟨[], (List.append_nil w.requests).symm, by simp⟩⟩

theorem throw (e : ε) : SendsOnly P (MonadExcept.throw e : ExceptT ε Session α) :=
  ⟨fun _ _ w => ⟨[], (List.append_nil w.requests).symm, by simp⟩⟩

theorem bind {p : ExceptT ε Session α} {f : α → ExceptT ε Session β} (h : SendsOnly P p)
    (hf : ∀ a, SendsOnly P (f a)) : SendsOnly P (p >>= f) := by
  refine ⟨fun server ids w => ?_⟩
  obtain ⟨sent, hr, hs⟩ := h.run server ids w
  cases hp : Session.attempt p server ids w with
  | mk result w' =>
    rw [hp] at hr
    cases result with
    | error e =>
      rw [Session.attempt_bind_error hp]
      exact ⟨sent, hr, hs⟩
    | ok a =>
      obtain ⟨sent', hr', hs'⟩ := (hf a).run server ids w'
      rw [Session.attempt_bind_ok hp]
      refine ⟨sent ++ sent', ?_, fun r hmem => ?_⟩
      · rw [hr', hr, List.append_assoc]
      · rcases List.mem_append.1 hmem with hmem | hmem
        · exact hs r hmem
        · exact hs' r hmem

theorem ensure (condition : Bool) (message : String) : SendsOnly P (ensure condition message) := by
  cases condition with
  | true => exact .pure ()
  | false => exact .throw _

theorem call (m : Method) (h : P m.request) : SendsOnly P m.call := by
  refine ⟨fun server ids w => ?_⟩
  by_cases hm : m.Refused
  · refine ⟨[], ?_, by simp⟩
    rw [List.append_nil, m.requests_of_refused hm]
  · exact ⟨[m.request], m.requests_of_not_refused hm server ids w, by simpa using h⟩

theorem ofCall {c : Call α} (h : SendsOnly P c) : SendsOnly P (Checking.ofCall c) := by
  refine ⟨fun server ids w => ?_⟩
  rw [attempt_ofCall rfl]
  exact h.run server ids w

theorem lift_run {c : Call α} (h : SendsOnly P c) :
    SendsOnly P (ExceptT.lift c.run : Checking (Except ClientError α)) := by
  refine ⟨fun server ids w => ?_⟩
  rw [Session.attempt_lift_run rfl]
  exact h.run server ids w

end SendsOnly

/-! ## Fixtures -/

/-- The request takes something away. -/
def Request.Deletes : Request → Prop
  | deleteTable _ | deleteBucket _ | deleteObject .. | deleteTopic _ | deleteUserPool _ => True
  | _ => False

/-- What a check makes, works on, and deletes. -/
inductive Fixture where
  | table
  | topic
  | pool
  deriving DecidableEq, Repr

namespace Fixture

/-- The check. -/
def check : Fixture → Checking Unit
  | table => Check.tableCreateAndDuplicate
  | topic => Check.topicPublish
  | pool => Check.userAuthentication

/-- What the name of the resource begins with. -/
def label : Fixture → String
  | table => "check-table"
  | topic => "check-topic"
  | pool => "check-pool"

/-- Makes the resource under a name; gives what the service calls it. -/
def make : Fixture → String → Call String
  | table, name => Tables.create name "id"
  | topic, name => Topics.create name
  | pool, name => UserPools.create name

/-- What the resource is known by: a table by its own name, all else by what the service calls it. -/
def handle : Fixture → String → String → String
  | table, name, _ => name
  | topic, _, arn => arn
  | pool, _, id => id

/-- The work on the resource. -/
def work : Fixture → String → String → Checking Unit
  | table, name, created => Check.tableAssertions name created
  | topic, _, arn => do
    let message ← ofCall (Topics.publish arn none "check")
    ensure (message != "") "publish returned an empty message id"
  | pool, _, id => Check.authenticationAssertions id

/-- Deletes the resource. -/
def delete : Fixture → String → Call Unit
  | table, name => Tables.delete name
  | topic, arn => Topics.delete arn
  | pool, id => UserPools.delete id

/-- The request that deletes the resource. -/
def deletion : Fixture → String → Request
  | table, name => .deleteTable name
  | topic, arn => .deleteTopic arn
  | pool, id => .deleteUserPool id

theorem check_eq (f : Fixture) :
    f.check = (do
      let name ← ExceptT.lift (Session.freshName f.label)
      let created ← ofCall (f.make name)
      thenAlways (f.work name created) (ofCall (f.delete (f.handle name created)))) := by
  cases f <;> rfl

theorem deletion_deletes (f : Fixture) (known : String) : (f.deletion known).Deletes := by
  cases f <;> trivial

/-! ## What each phase sends -/

/-- Making the resource takes one request, which deletes nothing. -/
theorem make_requests (f : Fixture) (name : String) (server : Server σ) (ids : Nat → Uuid)
    (w : World σ) :
    ∃ r, ¬ r.Deletes ∧
      (Session.attempt (f.make name) server ids w).2.requests = w.requests ++ [r] := by
  cases f with
  | table => exact ⟨_, id, ((Method.createTable name "id").asks rfl).requests server ids w⟩
  | topic => exact ⟨_, id, ((Method.createTopic name).asks rfl).requests server ids w⟩
  | pool => exact ⟨_, id, ((Method.createPool name).asks rfl).requests server ids w⟩

/-- Deleting it takes the request that is meant for it. -/
theorem delete_requests (f : Fixture) (known : String) (server : Server σ) (ids : Nat → Uuid)
    (w : World σ) :
    (Session.attempt (f.delete known) server ids w).2.requests =
      w.requests ++ [f.deletion known] := by
  cases f with
  | table => exact ((Method.deleteTable known).asks rfl).requests server ids w
  | topic => exact ((Method.deleteTopic known).asks rfl).requests server ids w
  | pool => exact ((Method.deletePool known).asks rfl).requests server ids w

/-- The work between deletes nothing, whatever it comes to. -/
theorem work_sendsOnly (f : Fixture) (name created : String) :
    SendsOnly (fun r => ¬ r.Deletes) (f.work name created) := by
  cases f with
  | table =>
    refine .bind (.ensure _ _) fun _ => ?_
    refine .bind (.lift_run (.call (.createTable name "id") id)) fun second => ?_
    split
    · exact .throw _
    · exact .ensure _ _
    · exact .throw _
  | topic =>
    refine .bind (.ofCall (.call (.publish created none "check") id)) fun message => ?_
    exact .ensure _ _
  | pool =>
    refine .bind (.ofCall (.call (.createClient created "check-app") id)) fun client => ?_
    refine .bind (.ofCall (.call (.createUser created "check-user" "Temporary-Pass1!") id)) fun _ => ?_
    refine .bind (.ofCall (.call (.setPassword created "check-user" "Permanent-Pass1!") id)) fun _ => ?_
    refine .bind (.ofCall (.call (.authenticate created client "check-user" "Permanent-Pass1!") id))
      fun tokens => ?_
    refine .bind (.ofCall (.call (.usernameFor tokens.accessToken) id)) fun resolved => ?_
    exact .ensure _ _

/-! ## The phases of a run -/

section

variable (f : Fixture) (server : Server σ) (ids : Nat → Uuid) (w : World σ)

/-- The run of the check: what it comes to, and the world after it. -/
def run : Except CheckError Unit × World σ := Session.attempt f.check server ids w

/-- The name that the resource is made under. -/
def name : String := resourceName f.label (ids w.drawn)

/-- How the making goes, once the name is drawn. -/
def making : Except ClientError String × World σ :=
  Session.attempt (f.make (f.name ids w)) server ids w.drew

/-- How the work goes, after a making that has given `created`. -/
def working (created : String) : Except CheckError Unit × World σ :=
  Session.attempt (f.work (f.name ids w) created) server ids (f.making server ids w).2

/-- How the deletion goes, after the work. -/
def deleting (created : String) : Except ClientError Unit × World σ :=
  Session.attempt (f.delete (f.handle (f.name ids w) created)) server ids
    (f.working server ids w created).2

theorem run_of_not_made {e : ClientError} (h : (f.making server ids w).1 = .error e) :
    f.run server ids w = (.error (.client e), (f.making server ids w).2) := by
  have hm : Session.attempt (f.make (f.name ids w)) server ids w.drew =
      (.error e, (f.making server ids w).2) := Prod.ext h rfl
  unfold run
  rw [check_eq, Session.attempt_bind_ok (attempt_freshName _ w)]
  exact Session.attempt_bind_error (attempt_ofCall hm)

/-- A run whose making, work and deletion are known one after the other. -/
theorem run_of_steps {w₁ w₂ w₃ : World σ} {created : String} {worked : Except CheckError Unit}
    {deleted : Except ClientError Unit}
    (hm : Session.attempt (f.make (f.name ids w)) server ids w.drew = (.ok created, w₁))
    (hw : Session.attempt (f.work (f.name ids w) created) server ids w₁ = (worked, w₂))
    (hd : Session.attempt (f.delete (f.handle (f.name ids w) created)) server ids w₂ =
      (deleted, w₃)) :
    f.run server ids w = (firstFailure worked (deleted.mapError .client), w₃) := by
  unfold run
  rw [check_eq, Session.attempt_bind_ok (attempt_freshName _ w)]
  refine (Session.attempt_bind_ok (attempt_ofCall hm)).trans ?_
  exact Session.attempt_thenAlways hw (attempt_ofCall hd)

theorem run_of_made {created : String} (h : (f.making server ids w).1 = .ok created) :
    f.run server ids w =
      (firstFailure (f.working server ids w created).1
          ((f.deleting server ids w created).1.mapError .client),
        (f.deleting server ids w created).2) :=
  run_of_steps f server ids w (Prod.ext h rfl) rfl rfl

/-- The work and the deletion count alike for success. -/
theorem firstFailure_client_eq_ok_iff {worked : Except CheckError Unit}
    {deleted : Except ClientError Unit} :
    firstFailure worked (deleted.mapError .client) = .ok () ↔
      worked = .ok () ∧ deleted = .ok () := by
  rw [firstFailure_eq_ok_iff]
  have hd : deleted.mapError CheckError.client = .ok () ↔ deleted = .ok () := by
    cases deleted with
    | ok u => exact iff_of_true rfl rfl
    | error e => exact iff_of_false (by intro h; cases h) (by intro h; cases h)
  rw [hd]

/-- The requests of a check whose resource is made: the deletion is the last, and the only one. -/
theorem requests_of_made {created : String} (h : (f.making server ids w).1 = .ok created) :
    ∃ before, (f.run server ids w).2.requests =
        w.requests ++ (before ++ [f.deletion (f.handle (f.name ids w) created)]) ∧
      ∀ r ∈ before, ¬ r.Deletes := by
  obtain ⟨first, hf, hm⟩ := f.make_requests (f.name ids w) server ids w.drew
  obtain ⟨sent, hw, hs⟩ := (f.work_sendsOnly (f.name ids w) created).run server ids
    (f.making server ids w).2
  have hd := f.delete_requests (f.handle (f.name ids w) created) server ids
    (f.working server ids w created).2
  refine ⟨first :: sent, ?_, ?_⟩
  · rw [run_of_made f server ids w h]
    refine hd.trans ?_
    rw [working, hw, making, hm]
    simp [World.drew]
  · intro r hr
    rcases List.mem_cons.1 hr with rfl | hr
    · exact hf
    · exact hs r hr

end

/-- **A fixture is deleted exactly when it has been made**, whatever the server replies: by one request,
the last, which names what was made. The check passes exactly when both the work and the deletion
succeed. A failure of the work is reported as it is, however the deletion goes; a failure of the deletion
is reported when the work has succeeded. -/
theorem deleted_iff_made (f : Fixture) (server : Server σ) (ids : Nat → Uuid) (w : World σ) :
    ∃ sent, (f.run server ids w).2.requests = w.requests ++ sent ∧
      ((∃ r ∈ sent, r.Deletes) ↔ ∃ created, (f.making server ids w).1 = .ok created) ∧
      (∀ e, (f.making server ids w).1 = .error e → (f.run server ids w).1 = .error (.client e)) ∧
      ∀ created, (f.making server ids w).1 = .ok created →
        (∃ before, sent = before ++ [f.deletion (f.handle (f.name ids w) created)] ∧
          ∀ r ∈ before, ¬ r.Deletes) ∧
        ((f.run server ids w).1 = .ok () ↔
          (f.working server ids w created).1 = .ok () ∧
            (f.deleting server ids w created).1 = .ok ()) ∧
        (∀ e, (f.working server ids w created).1 = .error e →
          (f.run server ids w).1 = .error e) ∧
        ∀ e, (f.working server ids w created).1 = .ok () →
          (f.deleting server ids w created).1 = .error e →
            (f.run server ids w).1 = .error (.client e) := by
  cases hm : (f.making server ids w).1 with
  | error e =>
    obtain ⟨r, hr, hs⟩ := f.make_requests (f.name ids w) server ids w.drew
    refine ⟨[r], ?_, ?_, ?_, ?_⟩
    · rw [run_of_not_made f server ids w hm]
      exact hs
    · simpa using hr
    · intro e' he
      cases he
      rw [run_of_not_made f server ids w hm]
    · intro created hc
      cases hc
  | ok created =>
    obtain ⟨before, hs, hb⟩ := requests_of_made f server ids w hm
    have hrun : (f.run server ids w).1 = firstFailure (f.working server ids w created).1
        ((f.deleting server ids w created).1.mapError .client) :=
      congrArg Prod.fst (run_of_made f server ids w hm)
    refine ⟨_, hs, ?_, ?_, ?_⟩
    · have hmem : f.deletion (f.handle (f.name ids w) created) ∈
          before ++ [f.deletion (f.handle (f.name ids w) created)] := by simp
      exact iff_of_true ⟨_, hmem, f.deletion_deletes _⟩ ⟨created, rfl⟩
    · intro e he
      cases he
    · intro created' hc
      cases hc
      rw [hrun]
      refine ⟨⟨before, rfl, hb⟩, firstFailure_client_eq_ok_iff, ?_, ?_⟩
      · intro e he
        rw [he]
        rfl
      · intro e hw hd
        rw [hw, hd]
        rfl

end Fixture

end CloudRehearsal
