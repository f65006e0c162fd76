import CloudRehearsal.Check.Outcome
import CloudRehearsal.Proofs.Methods

/-!
The steps that checks are made of, each run on its own: a fresh name, a method of a client, an
expectation. A check is walked through step by step with these and the laws of `Program.attempt`.
-/
namespace CloudRehearsal

open Checking

variable {σ α ε : Type}

/-- An identifier has been drawn. -/
def World.drew (w : World σ) : World σ := { w with drawn := w.drawn + 1 }

/-- The requests that were sent are never forgotten. -/
theorem Session.requests_prefix (p : Session α) (server : Server σ) (ids : Nat → Uuid) (w : World σ) :
    w.requests <+: (p.run server ids w).2.requests := by
  unfold Session.run
  induction p generalizing w with
  | done a => exact List.prefix_rfl
  | ask act next ih =>
    refine List.IsPrefix.trans ?_ (ih _ _)
    cases act with
    | send request => exact List.prefix_append _ _
    | draw => exact List.prefix_rfl
    | note event => exact List.prefix_rfl

namespace Checking

theorem ofCall_bind {β : Type} (c : Call α) (f : α → Call β) :
    ofCall (c >>= f) = (ofCall c >>= fun a => ofCall (f a)) := by
  apply ExceptT.ext
  show ((c >>= f).run >>= _) = (ofCall c >>= fun a => ofCall (f a)).run
  rw [ExceptT.run_bind, ExceptT.run_bind, bind_assoc]
  show _ = ((c.run >>= _) >>= _)
  rw [bind_assoc]
  congr 1
  funext r
  cases r <;> rfl

variable {server : Server σ} {ids : Nat → Uuid} {w w' : World σ}

theorem attempt_freshName (label : String) (w : World σ) :
    Session.attempt (ExceptT.lift (Session.freshName label) : ExceptT ε Session String) server ids w =
      (.ok (resourceName label (ids w.drawn)), w.drew) :=
  Program.attempt_lift _ _

/-- A call as part of a check comes to the same, its error being the check's. -/
theorem attempt_ofCall {c : Call α} {r : Except ClientError α}
    (h : Session.attempt c server ids w = (r, w')) :
    Session.attempt (ofCall c) server ids w = (r.mapError .client, w') := by
  unfold Session.attempt Program.attempt at h ⊢
  show Program.run _ (c.run >>= _) w = _
  rw [Program.run_bind, h]
  cases r <;> rfl

theorem attempt_ensure_true {condition : Bool} (h : condition = true) (message : String) :
    Session.attempt (ensure condition message) server ids w = (.ok (), w) := by
  rw [h]
  rfl

theorem attempt_ensure_false {condition : Bool} (h : condition = false) (message : String) :
    Session.attempt (ensure condition message) server ids w = (.error (.assertion message), w) := by
  rw [h]
  rfl

end Checking

namespace Method

theorem sends_createBucket (b : Buckets) {bucket : String} (h : bucket ≠ "") :
    (createBucket b bucket).Sends := if_neg h

theorem sends_containsBucket {bucket : String} (h : bucket ≠ "") : (containsBucket bucket).Sends :=
  if_neg h

theorem sends_deleteBucket {bucket : String} (h : bucket ≠ "") : (deleteBucket bucket).Sends :=
  if_neg h

section

variable {bucket key : String} (hb : bucket ≠ "") (hk : key ≠ "")
include hb hk

theorem sends_putText (content : String) : (putText bucket key content).Sends :=
  (if_neg hb).trans (if_neg hk)

theorem sends_getBytes : (getBytes bucket key).Sends := (if_neg hb).trans (if_neg hk)

theorem sends_deleteObject : (deleteObject bucket key).Sends := (if_neg hb).trans (if_neg hk)

end

variable {m : Method} (h : m.Sends) (ids : Nat → Uuid) (server : Server σ) (w : World σ)
include h

/-- A method as part of a check: one request, and the reply as the method reads it. -/
theorem attempt_ofCall :
    ∃ w', Session.attempt (ofCall m.call) server ids w =
        ((m.read (server.answer m.request w.service).1).mapError .client, w') ∧
      (w.answered server m.request).Noted w' := by
  obtain ⟨w', e, n⟩ := (m.asks h).run server ids w
  exact ⟨w', Checking.attempt_ofCall e, n⟩

variable {server w}

theorem ofCall_ok {a : m.Result} (hr : m.read (server.answer m.request w.service).1 = .ok a) :
    ∃ w', Session.attempt (ofCall m.call) server ids w = (.ok a, w') ∧
      (w.answered server m.request).Noted w' := by
  obtain ⟨w', e, n⟩ := attempt_ofCall h ids server w
  rw [hr] at e
  exact ⟨w', e, n⟩

end Method

theorem resourceName_ne_empty (label : String) (u : Uuid) : resourceName label u ≠ "" := by
  intro h
  have := congrArg String.toList h
  simp [resourceName] at this

end CloudRehearsal
