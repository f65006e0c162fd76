import CloudRehearsal.Proofs.ErrorClasses
import CloudRehearsal.Proofs.ObjectRoundTrip
import CloudRehearsal.Proofs.OneRequest
import CloudRehearsal.Proofs.Passing

/-!
When the checks of buckets pass (`bucketChecks_pass_iff`). The check of objects passes in one
conversation only: everything succeeds, and the body that comes back is complete and holds the bytes that
went. The check of a bucket's life passes when the bucket is shown once it is created, and reported
missing once it is deleted.

The question for a bucket is the one call that succeeds on an error: on the error for a missing bucket,
and on no other (`Method.read_containsBucket_eq_false_iff`).
-/
namespace CloudRehearsal

open Checking Text

/-! ## Whether a bucket is there -/

namespace Method

theorem read_containsBucket_eq_true_iff {bucket : String} {reply : Reply Unit} :
    (containsBucket bucket).read reply = .ok true ↔ reply = .output () := by
  refine ⟨fun h => ?_, fun h => h ▸ rfl⟩
  cases reply with
  | output o => rfl
  | error fault => exact absurd h (read_containsBucket_ne_true bucket nofun)
  | lost call => exact absurd h (read_containsBucket_ne_true bucket nofun)

theorem read_containsBucket_eq_false_iff {bucket : String} {reply : Reply Unit} :
    (containsBucket bucket).read reply = .ok false ↔
      ∃ fault, reply = .error fault ∧ fault.Is "NotFound" := by
  cases reply with
  | output o => exact iff_of_false nofun nofun
  | lost call => exact iff_of_false nofun nofun
  | error fault =>
    by_cases hn : fault.Is "NotFound"
    · exact iff_of_true (fail_absent hn) ⟨fault, rfl, hn⟩
    · have hf : (containsBucket bucket).read (.error fault) =
          .error ((containsBucket bucket).explain (.service fault)) :=
        fail_service_eq_error (m := containsBucket bucket) fun _ _ => hn
      rw [hf]
      refine iff_of_false nofun ?_
      intro ⟨_, h, hn'⟩
      cases h
      exact hn hn'

end Method

/-- A bucket is taken to be absent on one answer only, that of a service which says so. A request that is
not sent, for want of a name, has no answer. -/
theorem Buckets.contains_eq_false_iff {σ : Type} (server : Server σ) (ids : Nat → Uuid) (w : World σ)
    (bucket : String) :
    (Session.attempt (Buckets.contains bucket) server ids w).1 = .ok false ↔
      bucket ≠ "" ∧ ∃ fault,
        (server.answer (.headBucket bucket) w.service).1 = .error fault ∧ fault.Is "NotFound" := by
  by_cases hb : bucket = ""
  · obtain ⟨e, hs⟩ := Method.silent (m := .containsBucket bucket) hb
    obtain ⟨w', he, -⟩ := hs.run server ids w
    rw [he]
    exact iff_of_false nofun fun h => h.1 hb
  · obtain ⟨w', he, -⟩ := ((Method.containsBucket bucket).asks
      (Method.sends_containsBucket hb)).run server ids w
    rw [he]
    exact Method.read_containsBucket_eq_false_iff.trans (and_iff_right hb).symm

namespace Check

/-! ## Conversations in which the checks pass -/

section

variable {bucket : String} (hb : bucket ≠ "")
include hb

theorem succeeds_objectAssertions (content : String) :
    Succeeds (objectAssertions bucket objectKey content) fun _ xs =>
      xs = [⟨upload bucket content, .output ()⟩,
        ⟨.getObject bucket objectKey, .output (.complete (Utf8.bytes content))⟩] := by
  have hk : objectKey ≠ "" := by decide
  refine (Succeeds.tell (.putText bucket objectKey content) (Method.sends_putText hb hk content)
    (fun _ => rfl) fun _ => .tell (.getBytes bucket objectKey) (Method.sends_getBytes hb hk)
      (fun _ => rfl) fun downloaded => .ensure _ _).congr fun _ xs => ⟨?_, ?_⟩
  · intro ⟨_, _, hx, downloaded, _, hy, hbytes, hnil⟩
    rw [hx, hy, hnil, eq_of_beq hbytes]
  · intro hx
    exact ⟨(), _, hx, Utf8.bytes content, _, rfl, beq_self_eq_true _, rfl⟩

theorem succeeds_removeBucket :
    Succeeds (removeBucket bucket objectKey) fun _ xs =>
      xs = [⟨.deleteObject bucket objectKey, .output ()⟩, ⟨.deleteBucket bucket, .output ()⟩] := by
  have hk : objectKey ≠ "" := by decide
  unfold removeBucket
  rw [ofCall_bind]
  refine (Succeeds.tell (.deleteObject bucket objectKey) (Method.sends_deleteObject hb hk)
    (fun _ => rfl) fun _ => .last (.deleteBucket bucket) (Method.sends_deleteBucket hb)
      (fun _ => rfl)).congr fun _ xs => ⟨?_, ?_⟩
  · intro ⟨_, _, hx, hy⟩
    rw [hx, hy]
  · intro hx
    exact ⟨(), _, hx, rfl⟩

theorem succeeds_afterCreation :
    Succeeds (afterCreation bucket) fun _ xs => ∃ fault, fault.Is "NotFound" ∧
      xs = [⟨.headBucket bucket, .output ()⟩, ⟨.deleteBucket bucket, .output ()⟩,
        ⟨.headBucket bucket, .error fault⟩] := by
  have hc := Method.sends_containsBucket hb
  refine (Succeeds.step (.containsBucket bucket) hc fun created => .require <|
    .tell (.deleteBucket bucket) (Method.sends_deleteBucket hb) (fun _ => rfl) fun _ =>
      .step (.containsBucket bucket) hc fun left => .ensure _ _).congr fun _ xs => ⟨?_, ?_⟩
  · intro ⟨created, first, _, hfirst, hx, hcreated, _, _, hy, left, second, _, hsecond, hz, hleft, hnil⟩
    have hleft : left = false := by simpa using hleft
    rw [hcreated, Method.read_containsBucket_eq_true_iff] at hfirst
    rw [hleft, Method.read_containsBucket_eq_false_iff] at hsecond
    obtain ⟨fault, hsecond, hn⟩ := hsecond
    exact ⟨fault, hn, by rw [hx, hy, hz, hnil, hfirst, hsecond]⟩
  · intro ⟨fault, hn, hx⟩
    exact ⟨true, .output (), _, rfl, hx, rfl, (), _, rfl, false, .error fault, _,
      Method.read_containsBucket_eq_false_iff.2 ⟨fault, rfl, hn⟩, rfl, rfl, rfl⟩

end

/-! ## The checks -/

/-- All that the check of objects asks for succeeds, and the text comes back byte for byte as it went. -/
def textComesBack (b : Buckets) (bucket : String) : List Exchange :=
  [⟨creation b bucket, .output ()⟩,
    ⟨.putObject bucket objectKey roundTripContent.toUTF8.data.toList, .output ()⟩,
    ⟨.getObject bucket objectKey, .output (.complete roundTripContent.toUTF8.data.toList)⟩,
    ⟨.deleteObject bucket objectKey, .output ()⟩,
    ⟨.deleteBucket bucket, .output ()⟩]

/-- The bucket is created and shown, and reported missing once it is deleted. -/
def bucketComesAndGoes (b : Buckets) (bucket : String) (missing : Fault) : List Exchange :=
  [⟨creation b bucket, .output ()⟩,
    ⟨.headBucket bucket, .output ()⟩,
    ⟨.deleteBucket bucket, .output ()⟩,
    ⟨.headBucket bucket, .error missing⟩]

variable {σ : Type} (b : Buckets) (server : Server σ) (ids : Nat → Uuid) (w : World σ)

theorem objectRoundTrip_passes_iff :
    (Session.attempt (objectRoundTrip b) server ids w).1 = .ok () ↔
      server.Answers (textComesBack b (bucketOf ids w)) w.service := by
  unfold textComesBack
  rw [← Utf8.bytes_eq]
  refine (Succeeds.of_freshName (fun bucket hb => .tell (.createBucket b bucket)
    (Method.sends_createBucket b hb) (fun _ => rfl) fun _ =>
      (succeeds_objectAssertions hb roundTripContent).always (succeeds_removeBucket hb))
    server ids w ()).trans ⟨?_, ?_⟩
  · intro ⟨xs, ⟨_, _, hx, _, _, hy, hwork, hremoval⟩, ha⟩
    rw [hx, hy, hwork, hremoval] at ha
    exact ha
  · intro ha
    exact ⟨_, ⟨(), _, rfl, _, _, rfl, rfl, rfl⟩, ha⟩

theorem bucketLifecycle_passes_iff :
    (Session.attempt (bucketLifecycle b) server ids w).1 = .ok () ↔
      ∃ missing, missing.Is "NotFound" ∧
        server.Answers (bucketComesAndGoes b (bucketOf ids w) missing) w.service := by
  rw [bucketLifecycle_eq]
  refine (Succeeds.of_freshName (fun bucket hb => .tell (.createBucket b bucket)
    (Method.sends_createBucket b hb) (fun _ => rfl) fun _ => succeeds_afterCreation hb)
    server ids w ()).trans ⟨?_, ?_⟩
  · intro ⟨xs, ⟨_, _, hx, missing, hn, hy⟩, ha⟩
    rw [hx, hy] at ha
    exact ⟨missing, hn, ha⟩
  · intro ⟨missing, hn, ha⟩
    exact ⟨_, ⟨(), _, rfl, missing, hn, rfl⟩, ha⟩

/-- **When the checks of buckets pass.** That of objects passes exactly when the bucket is created, the
object uploaded, downloaded whole and byte for byte as it went, and both are deleted. That of a bucket's
life passes exactly when the bucket is created, shown, deleted and then reported missing. Nothing but such
a report is taken for a missing bucket: not an error of another kind or of none, and not silence. -/
theorem bucketChecks_pass_iff :
    ((Session.attempt (objectRoundTrip b) server ids w).1 = .ok () ↔
      server.Answers (textComesBack b (bucketOf ids w)) w.service) ∧
    ((Session.attempt (bucketLifecycle b) server ids w).1 = .ok () ↔
      ∃ missing, missing.Is "NotFound" ∧
        server.Answers (bucketComesAndGoes b (bucketOf ids w) missing) w.service) ∧
    ∀ bucket, (Session.attempt (Buckets.contains bucket) server ids w).1 = .ok false ↔
      bucket ≠ "" ∧ ∃ fault,
        (server.answer (.headBucket bucket) w.service).1 = .error fault ∧ fault.Is "NotFound" :=
  ⟨objectRoundTrip_passes_iff b server ids w, bucketLifecycle_passes_iff b server ids w,
    Buckets.contains_eq_false_iff server ids w⟩

end Check

end CloudRehearsal
