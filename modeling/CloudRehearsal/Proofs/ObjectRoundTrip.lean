import CloudRehearsal.Proofs.BucketLifecycle
import CloudRehearsal.Proofs.ErrorClasses
import CloudRehearsal.Proofs.Exchanges

/-!
What becomes of the bucket that the check of objects creates. The object is always deleted after the
work on it, whatever the work has come to. The bucket is deleted by the last request exactly when the
deletion of the object succeeds (`objectRoundTrip_deletes_iff`): the two deletions are one sequence, and
a failure of the first ends it with the bucket still there.
-/
namespace CloudRehearsal

open Checking

variable {σ : Type}

theorem firstFailure_of_error {ε α : Type} (body : Except ε α) (e : ε) :
    ∃ e', firstFailure body (.error e) = .error e' := by
  cases body with
  | ok a => exact ⟨e, rfl⟩
  | error e' => exact ⟨e', rfl⟩

theorem Server.map_request_exchanges (server : Server σ) (sent : List Request) (s : σ) :
    (server.exchanges sent s).map (·.request) = sent := by
  induction sent generalizing s with
  | nil => rfl
  | cons r sent ih => exact congrArg (r :: ·) (ih _)

namespace Check

/-- The key that the check uploads under. -/
@[reducible]
def objectKey : String := "round-trip.txt"

/-- The request that uploads the object. -/
@[reducible]
def upload (bucket content : String) : Request :=
  .putObject bucket objectKey (Text.Utf8.bytes content)

section

variable {bucket : String} (hb : bucket ≠ "")
include hb

/-! ## The work -/

/-- An object is uploaded and, if that succeeds, downloaded: nothing else is sent. -/
theorem course_objectAssertions (content : String) :
    Course [] (objectAssertions bucket objectKey content) fun _ ys =>
      ys.map (·.request) = [upload bucket content] ∨
        ys.map (·.request) = [upload bucket content, .getObject bucket objectKey] := by
  have hk : objectKey ≠ "" := by decide
  have hput : Course [] (ofCall (Buckets.putText bucket objectKey content)) fun _ ys =>
      ys.map (·.request) = [upload bucket content] :=
    .ofCall (.call (Method.sends_putText hb hk content) fun _ => rfl)
  refine hput.bind (fun _ ys h => ?_) fun _ _ h => .inl h
  have hget : Course ys (ofCall (Buckets.getBytes bucket objectKey)) fun _ zs =>
      zs.map (·.request) = [upload bucket content, .getObject bucket objectKey] :=
    .ofCall (.call (Method.sends_getBytes hb hk) fun _ => by rw [List.map_append, h]; rfl)
  exact hget.bind (fun _ _ h => .ensure fun _ => .inr h) fun _ _ h => .inr h

theorem objectAssertions_sends (content : String) (server : Server σ) (ids : Nat → Uuid)
    (w : World σ) :
    ∃ outcome sent w',
      Session.attempt (objectAssertions bucket objectKey content) server ids w = (outcome, w') ∧
        w.Went server sent w' ∧
          (sent = [upload bucket content] ∨
            sent = [upload bucket content, .getObject bucket objectKey]) := by
  obtain ⟨outcome, sent, w', e, went, h⟩ := (course_objectAssertions hb content).run server ids w
  rw [List.nil_append, server.map_request_exchanges] at h
  exact ⟨outcome, sent, w', e, went, h⟩

/-! ## The removal -/

theorem removeBucket_of_deleted (server : Server σ) (ids : Nat → Uuid) (w : World σ)
    (h : ∃ o, (server.answer (.deleteObject bucket objectKey) w.service).1 = .output o) :
    ∃ cleaned w', Session.attempt (removeBucket bucket objectKey) server ids w = (cleaned, w') ∧
      w'.requests = w.requests ++ [.deleteObject bucket objectKey, .deleteBucket bucket] := by
  have hk : objectKey ≠ "" := by decide
  obtain ⟨o, ho⟩ := h
  have hr : (Method.deleteObject bucket objectKey).read
      (server.answer (.deleteObject bucket objectKey) w.service).1 = .ok o := by
    rw [ho]
    rfl
  obtain ⟨w₁, e₁, n₁⟩ := Method.ofCall_ok (Method.sends_deleteObject hb hk) ids hr
  obtain ⟨w₂, e₂, n₂⟩ := Method.attempt_ofCall (Method.sends_deleteBucket hb) ids server w₁
  have hrun : Session.attempt (removeBucket bucket objectKey) server ids w =
      Session.attempt (ofCall (Buckets.delete bucket)) server ids w₁ := by
    unfold removeBucket
    rw [ofCall_bind]
    exact Session.attempt_bind_ok e₁
  refine ⟨_, w₂, hrun.trans e₂, ?_⟩
  rw [n₂.requests, World.answered, n₁.requests, World.answered, List.append_assoc]
  rfl

theorem removeBucket_of_not_deleted (server : Server σ) (ids : Nat → Uuid) (w : World σ)
    (h : ¬ ∃ o, (server.answer (.deleteObject bucket objectKey) w.service).1 = .output o) :
    ∃ e w', Session.attempt (removeBucket bucket objectKey) server ids w = (.error e, w') ∧
      w'.requests = w.requests ++ [.deleteObject bucket objectKey] := by
  have hk : objectKey ≠ "" := by decide
  obtain ⟨w', e, n⟩ := Method.attempt_ofCall (Method.sends_deleteObject hb hk) ids server w
  obtain ⟨failure, hf⟩ : ∃ failure, (Method.deleteObject bucket objectKey).read
      (server.answer (.deleteObject bucket objectKey) w.service).1 = .error failure := by
    cases hread : (Method.deleteObject bucket objectKey).read
        (server.answer (.deleteObject bucket objectKey) w.service).1 with
    | error failure => exact ⟨failure, rfl⟩
    | ok a =>
      obtain ⟨o, ho, -⟩ := (Method.read_eq_ok_iff (by simp)).1 hread
      exact absurd ⟨o, ho⟩ h
  rw [hf] at e
  refine ⟨.client failure, w', ?_, n.requests⟩
  unfold removeBucket
  rw [ofCall_bind]
  exact Session.attempt_bind_error e

end

/-! ## The whole check -/

section

variable (b : Buckets) (server : Server σ) (ids : Nat → Uuid) (w : World σ)

/-- What the server answers when it is asked to delete the object, after the bucket has been created and
`work` has been sent. -/
def answerToDeletion (work : List Request) : Reply Unit :=
  (server.answer (.deleteObject (bucketOf ids w) objectKey)
    (server.after (creation b (bucketOf ids w) :: work) w.service)).1

/-- What the check sends after the creation of its bucket: the work, the deletion of the object, and that
of the bucket if the object's has succeeded. Otherwise the check fails. -/
theorem attempt_objectRoundTrip
    (h : (server.answer (creation b (bucketOf ids w)) w.service).1 = .output ()) :
    ∃ work rest,
      (Session.attempt (objectRoundTrip b) server ids w).2.requests = w.requests ++
        creation b (bucketOf ids w) ::
          (work ++ .deleteObject (bucketOf ids w) objectKey :: rest) ∧
      (work = [upload (bucketOf ids w) roundTripContent] ∨
        work = [upload (bucketOf ids w) roundTripContent, .getObject (bucketOf ids w) objectKey]) ∧
      ((∃ o, answerToDeletion b server ids w work = .output o) ∧
          rest = [.deleteBucket (bucketOf ids w)] ∨
        (¬ ∃ o, answerToDeletion b server ids w work = .output o) ∧ rest = [] ∧
          ∃ e, (Session.attempt (objectRoundTrip b) server ids w).1 = .error e) := by
  have hb := bucketOf_ne_empty ids w
  have hr : (Method.createBucket b (bucketOf ids w)).read
      (server.answer (creation b (bucketOf ids w)) w.drew.service).1 = .ok () := by
    rw [World.drew, h]
    rfl
  obtain ⟨w₁, e₁, n₁⟩ := Method.ofCall_ok (Method.sends_createBucket b hb) ids hr
  obtain ⟨outcome, work, w₂, e₂, went, hwork⟩ :=
    objectAssertions_sends hb roundTripContent server ids w₁
  have hrequests : w₂.requests = w.requests ++ creation b (bucketOf ids w) :: work := by
    rw [went.requests, n₁.requests, World.answered, List.append_assoc]
    rfl
  have hservice : w₂.service = server.after (creation b (bucketOf ids w) :: work) w.service := by
    rw [went.service, n₁.service]
    rfl
  have hrun {cleaned : Except CheckError Unit} {w₃ : World σ}
      (e₃ : Session.attempt (removeBucket (bucketOf ids w) objectKey) server ids w₂ = (cleaned, w₃)) :
      Session.attempt (objectRoundTrip b) server ids w = (firstFailure outcome cleaned, w₃) := by
    unfold objectRoundTrip
    rw [Session.attempt_bind_ok (attempt_freshName _ w)]
    exact (Session.attempt_bind_ok e₁).trans (Session.attempt_thenAlways e₂ e₃)
  by_cases hd : ∃ o, answerToDeletion b server ids w work = .output o
  · obtain ⟨cleaned, w₃, e₃, hsent⟩ := removeBucket_of_deleted hb server ids w₂ (hservice ▸ hd)
    refine ⟨work, [.deleteBucket (bucketOf ids w)], ?_, hwork, .inl ⟨hd, rfl⟩⟩
    rw [hrun e₃, hsent, hrequests]
    simp
  · obtain ⟨failure, w₃, e₃, hsent⟩ :=
      removeBucket_of_not_deleted hb server ids w₂ (hservice ▸ hd)
    obtain ⟨e, he⟩ := firstFailure_of_error outcome failure
    refine ⟨work, [], ?_, hwork, .inr ⟨hd, rfl, e, ?_⟩⟩
    · rw [hrun e₃, hsent, hrequests]
      simp
    · rw [hrun e₃, he]

/-- **When the bucket of the check is deleted again.** Once it has been created, the check uploads and
downloads, and then asks for the deletion of its object, whatever has come back. The deletion of the
bucket is the next and last request exactly when that of the object succeeds; otherwise nothing more is
sent, and the check fails. -/
theorem objectRoundTrip_deletes_iff
    (h : (server.answer (creation b (bucketOf ids w)) w.service).1 = .output ()) :
    ∃ work rest,
      (Session.attempt (objectRoundTrip b) server ids w).2.requests = w.requests ++
        creation b (bucketOf ids w) ::
          (work ++ .deleteObject (bucketOf ids w) objectKey :: rest) ∧
      (work = [upload (bucketOf ids w) roundTripContent] ∨
        work = [upload (bucketOf ids w) roundTripContent, .getObject (bucketOf ids w) objectKey]) ∧
      (rest = [.deleteBucket (bucketOf ids w)] ↔
        ∃ o, answerToDeletion b server ids w work = .output o) ∧
      (rest ≠ [.deleteBucket (bucketOf ids w)] →
        rest = [] ∧ ∃ e, (Session.attempt (objectRoundTrip b) server ids w).1 = .error e) := by
  obtain ⟨work, rest, hr, hwork, hrest⟩ := attempt_objectRoundTrip b server ids w h
  refine ⟨work, rest, hr, hwork, ?_⟩
  rcases hrest with ⟨hd, rfl⟩ | ⟨hd, rfl, hfail⟩
  · exact ⟨iff_of_true rfl hd, fun hn => absurd rfl hn⟩
  · exact ⟨iff_of_false (by simp) hd, fun _ => ⟨rfl, hfail⟩⟩

end

/-! ## A shelf -/

/-- A store of one object in any bucket. Buckets come and go, and every request that would change the
object is answered in the same way. -/
def shelf (change : Reply Unit) : Server (List UInt8) where
  answer
    | .createBucket .., s => (.output (), s)
    | .putObject _ _ body, s =>
      match change with
      | .output () => (change, body)
      | _ => (change, s)
    | .getObject .., s => (.output (.complete s), s)
    | .deleteObject .., s => (change, s)
    | .deleteBucket _, s => (.output (), s)
    | _, s => (.lost ⟨.connectIo, "connection refused"⟩, s)

/-- An empty shelf, of which nothing has been asked. -/
def bare : World (List UInt8) := .start []

/-- The bucket of a check on an empty shelf. -/
def bareBucket : String := bucketOf (fun _ => 7) bare

/-- A shelf that lets its object come and go is left without the bucket. -/
theorem emptied_bucket_deleted :
    ((shelf (.output ())).answer (creation ⟨"us-east-1"⟩ bareBucket) bare.service).1 = .output () ∧
      .deleteBucket bareBucket ∈
        (Session.attempt (objectRoundTrip ⟨"us-east-1"⟩) (shelf (.output ())) (fun _ => 7)
          bare).2.requests := by
  refine ⟨rfl, ?_⟩
  obtain ⟨work, rest, hr, -, hd, -⟩ :=
    objectRoundTrip_deletes_iff ⟨"us-east-1"⟩ (shelf (.output ())) (fun _ => 7) bare rfl
  rw [hr, hd.2 ⟨(), rfl⟩]
  simp [bareBucket]

/-- What a shelf answers on which no object may be touched. -/
def denial : Reply Unit := .error (.unmodeled "AccessDenied" (some "Access Denied"))

/-- On a shelf where no object may be touched the bucket is left: it is empty, and would be deleted if
that were asked for, but it is not. -/
theorem untouched_bucket_left :
    ((shelf denial).answer (creation ⟨"us-east-1"⟩ bareBucket) bare.service).1 = .output () ∧
      (∀ s, ((shelf denial).answer (.deleteBucket bareBucket) s).1 = .output ()) ∧
      .deleteBucket bareBucket ∉
        (Session.attempt (objectRoundTrip ⟨"us-east-1"⟩) (shelf denial) (fun _ => 7)
          bare).2.requests := by
  refine ⟨rfl, fun _ => rfl, ?_⟩
  obtain ⟨work, rest, hr, hwork, hrest⟩ :=
    attempt_objectRoundTrip ⟨"us-east-1"⟩ (shelf denial) (fun _ => 7) bare rfl
  rw [hr]
  rcases hrest with ⟨⟨o, ho⟩, -⟩ | ⟨-, rfl, -⟩
  · cases ho
  · rcases hwork with rfl | rfl <;> simp [bare, World.start]

end Check

end CloudRehearsal
