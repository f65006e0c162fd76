import CloudRehearsal.Check.Suite
import CloudRehearsal.Proofs.Checking

/-!
What becomes of the bucket that the check of a bucket's life creates. The bucket is deleted exactly
when the server says that it is there (`bucketLifecycle_deletes_iff`): a server that denies it, or does
not answer, keeps it, because the check fails before it comes to the deletion.
-/
namespace CloudRehearsal

open Checking

namespace Method

theorem fail_containsBucket_ne_true (bucket : String) (e : SendError) :
    (containsBucket bucket).fail e ≠ .ok true := by
  simp only [fail]
  cases e.exceptionIn? ["NotFound"] <;> simp

theorem read_containsBucket_ne_true (bucket : String) {reply : Reply Unit}
    (h : ¬ ∃ o, reply = .output o) : (containsBucket bucket).read reply ≠ .ok true := by
  cases reply with
  | output o => exact absurd ⟨o, rfl⟩ h
  | error fault => exact fail_containsBucket_ne_true bucket (.service fault)
  | lost call => exact fail_containsBucket_ne_true bucket (.lost call)

end Method

namespace Check

variable {σ : Type} (server : Server σ) (ids : Nat → Uuid)

/-- What the check does once the bucket has been created. -/
def afterCreation (bucket : String) : Checking Unit := do
  let created ← ofCall (Buckets.contains bucket)
  ensure created s!"bucket {bucket} missing after create"
  ofCall (Buckets.delete bucket)
  let left ← ofCall (Buckets.contains bucket)
  ensure (!left) s!"bucket {bucket} still exists after delete"

theorem bucketLifecycle_eq (b : Buckets) :
    bucketLifecycle b = (do
      let bucket ← ExceptT.lift (Session.freshName "check-bucket")
      ofCall (b.create bucket)
      afterCreation bucket) := rfl

theorem afterCreation_of_present {bucket : String} (hb : bucket ≠ "") (w : World σ)
    (h : ∃ o, (server.answer (.headBucket bucket) w.service).1 = .output o) :
    w.requests ++ [.headBucket bucket, .deleteBucket bucket] <+:
      (Session.attempt (afterCreation bucket) server ids w).2.requests := by
  obtain ⟨o, ho⟩ := h
  have hr : (Method.containsBucket bucket).read (server.answer (.headBucket bucket) w.service).1 =
      .ok true := by
    rw [ho]
    rfl
  obtain ⟨w₁, e₁, n₁⟩ := Method.ofCall_ok (Method.sends_containsBucket hb) ids hr
  obtain ⟨w₂, e₂, n₂⟩ := Method.attempt_ofCall (Method.sends_deleteBucket hb) ids server w₁
  have hreq : w₂.requests = w.requests ++ [.headBucket bucket, .deleteBucket bucket] := by
    rw [n₂.requests, World.answered, n₁.requests, World.answered, List.append_assoc]
    rfl
  unfold afterCreation
  rw [Session.attempt_bind_ok e₁, Session.attempt_bind_ok (attempt_ensure_true rfl _), ← hreq]
  -- whatever the deletion comes to, it has been sent
  cases hd : (Method.deleteBucket bucket).read
      (server.answer (.deleteBucket bucket) w₁.service).1 with
  | error e =>
    rw [hd] at e₂
    exact ⟨[], by rw [List.append_nil, Session.attempt_bind_error e₂]⟩
  | ok u =>
    rw [hd] at e₂
    rw [Session.attempt_bind_ok e₂]
    exact Session.requests_prefix _ server ids w₂

/-- A bucket that the server does not show is left: the check fails before the deletion. -/
theorem afterCreation_of_not_present {bucket : String} (hb : bucket ≠ "") (w : World σ)
    (h : ¬ ∃ o, (server.answer (.headBucket bucket) w.service).1 = .output o) :
    ∃ e w', Session.attempt (afterCreation bucket) server ids w = (.error e, w') ∧
      w'.requests = w.requests ++ [.headBucket bucket] := by
  have hr := Method.read_containsBucket_ne_true bucket h
  obtain ⟨w₁, e₁, n₁⟩ := Method.attempt_ofCall (Method.sends_containsBucket hb) ids server w
  cases hc : (Method.containsBucket bucket).read (server.answer (.headBucket bucket) w.service).1 with
  | error e =>
    rw [hc] at e₁
    exact ⟨_, w₁, Session.attempt_bind_error e₁, n₁.requests⟩
  | ok there =>
    have ht : there = false := by
      rw [hc] at hr
      simpa using hr
    rw [hc] at e₁
    refine ⟨.assertion s!"bucket {bucket} missing after create", w₁, ?_, n₁.requests⟩
    unfold afterCreation
    rw [Session.attempt_bind_ok e₁, Session.attempt_bind_error (attempt_ensure_false ht _)]

/-- The bucket that the check works on. -/
def bucketOf (ids : Nat → Uuid) (w : World σ) : String := resourceName "check-bucket" (ids w.drawn)

theorem bucketOf_ne_empty (ids : Nat → Uuid) (w : World σ) : bucketOf ids w ≠ "" :=
  resourceName_ne_empty _ _

/-- The request that creates a bucket in the region of a client. -/
@[reducible]
def creation (b : Buckets) (bucket : String) : Request :=
  .createBucket bucket (Buckets.locationConstraint b.region)

/-- The creation comes first, and what follows it goes on where it ends. -/
theorem attempt_bucketLifecycle (b : Buckets) (w : World σ)
    (h : (server.answer (creation b (bucketOf ids w)) w.service).1 = .output ()) :
    ∃ w', Session.attempt (bucketLifecycle b) server ids w =
        Session.attempt (afterCreation (bucketOf ids w)) server ids w' ∧
      (w.drew.answered server (creation b (bucketOf ids w))).Noted w' := by
  have hr : (Method.createBucket b (bucketOf ids w)).read
      (server.answer (creation b (bucketOf ids w)) w.drew.service).1 = .ok () := by
    rw [World.drew, h]
    rfl
  obtain ⟨w', e, n⟩ := Method.ofCall_ok (Method.sends_createBucket b (bucketOf_ne_empty ids w)) ids hr
  refine ⟨w', ?_, n⟩
  rw [bucketLifecycle_eq, Session.attempt_bind_ok (attempt_freshName _ w)]
  exact Session.attempt_bind_ok e

/-- **When the bucket that the check has created is deleted again**: exactly when the server, asked for
it right after the creation, says that it is there. Otherwise the check fails and leaves it.

The creation is answered with success; `sent` are the requests that the check sends after it. -/
theorem bucketLifecycle_deletes_iff (b : Buckets) (server : Server σ) (ids : Nat → Uuid) (w : World σ)
    (h : (server.answer (creation b (bucketOf ids w)) w.service).1 = .output ()) :
    ∃ sent,
      (Session.attempt (bucketLifecycle b) server ids w).2.requests =
        w.requests ++ creation b (bucketOf ids w) :: sent ∧
      (.deleteBucket (bucketOf ids w) ∈ sent ↔
        ∃ o, (server.answer (.headBucket (bucketOf ids w))
          (server.answer (creation b (bucketOf ids w)) w.service).2).1 = .output o) ∧
      (.deleteBucket (bucketOf ids w) ∉ sent →
        ∃ e, (Session.attempt (bucketLifecycle b) server ids w).1 = .error e) := by
  obtain ⟨w', e, n⟩ := attempt_bucketLifecycle server ids b w h
  have hb := bucketOf_ne_empty ids w
  have hr : w'.requests = w.requests ++ [creation b (bucketOf ids w)] := n.requests
  have hv : w'.service = (server.answer (creation b (bucketOf ids w)) w.service).2 := n.service
  rw [e, ← hv]
  by_cases hp : ∃ o, (server.answer (.headBucket (bucketOf ids w)) w'.service).1 = .output o
  · obtain ⟨more, hm⟩ := afterCreation_of_present server ids hb w' hp
    refine ⟨.headBucket (bucketOf ids w) :: .deleteBucket (bucketOf ids w) :: more, ?_, ?_, ?_⟩
    · rw [← hm, hr]
      simp
    · simpa using hp
    · simp
  · obtain ⟨err, w₂, e₂, hm⟩ := afterCreation_of_not_present server ids hb w' hp
    refine ⟨[.headBucket (bucketOf ids w)], ?_, ?_, fun _ => ⟨err, congrArg Prod.fst e₂⟩⟩
    · rw [e₂, hm, hr]
      simp
    · simpa using hp

/-! ## Two stores -/

/-- A store that creates and deletes whatever it is asked to, and gives the same reply to every
question for a bucket. -/
def store (there : Reply Unit) : Server Unit where
  answer
    | .createBucket .., s => (.output (), s)
    | .headBucket _, s => (there, s)
    | .deleteBucket _, s => (.output (), s)
    | _, s => (.lost ⟨.connectIo, "connection refused"⟩, s)

/-- A store that owns up to its buckets is left without this one. -/
theorem shown_bucket_deleted :
    ((store (.output ())).answer
        (creation ⟨"eu-west-1"⟩ (bucketOf (fun _ => 7) (World.start ()))) ()).1 = .output () ∧
      .deleteBucket (bucketOf (fun _ => 7) (World.start ())) ∈
        (Session.attempt (bucketLifecycle ⟨"eu-west-1"⟩) (store (.output ())) (fun _ => 7)
          (.start ())).2.requests := by
  refine ⟨rfl, ?_⟩
  obtain ⟨sent, hr, hd, -⟩ :=
    bucketLifecycle_deletes_iff ⟨"eu-west-1"⟩ (store (.output ())) (fun _ => 7) (.start ()) rfl
  rw [hr]
  exact List.mem_append_right _ (List.mem_cons_of_mem _ (hd.2 ⟨(), rfl⟩))

/-- A store that denies every bucket. -/
def denying : Server Unit := store (.error ⟨some ⟨"NotFound", none, "NotFound"⟩, none, none, "NotFound"⟩)

/-- A store that creates a bucket and then says that there is none keeps it: nothing is sent after the
question. -/
theorem denied_bucket_left :
    (denying.answer (creation ⟨"eu-west-1"⟩ (bucketOf (fun _ => 7) (World.start ()))) ()).1 =
        .output () ∧
      .deleteBucket (bucketOf (fun _ => 7) (World.start ())) ∉
        (Session.attempt (bucketLifecycle ⟨"eu-west-1"⟩) denying (fun _ => 7) (.start ())).2.requests := by
  refine ⟨rfl, ?_⟩
  obtain ⟨w', e, n⟩ := attempt_bucketLifecycle denying (fun _ => 7) ⟨"eu-west-1"⟩ (.start ()) rfl
  obtain ⟨_, w₂, e₂, hm⟩ := afterCreation_of_not_present denying
    (fun _ => 7) (bucketOf_ne_empty (fun _ => 7) (.start ())) w' fun ⟨_, h⟩ => nomatch h
  rw [e, e₂, hm, n.requests]
  simp [World.answered, World.drew, World.start]

end Check

end CloudRehearsal
