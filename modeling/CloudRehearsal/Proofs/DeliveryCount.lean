import CloudRehearsal.Proofs.DeliveryTotal
import CloudRehearsal.Proofs.Passing
import CloudRehearsal.Proofs.Trials

/-!
The count of deliveries, and the check that compares two of them (`verifiedSend_counted_exactly`).

A count is summed in 64 bits, so a sum on the way may leave the range; the last is the exact sum if that
fits, in whatever order the counts come. What the check compares are then the exact sums.
-/
namespace CloudRehearsal

open Checking

namespace Mail

/-- The number is one of 64 bits. -/
def Fits (n : Int) : Prop := Int64.minValue.toInt ≤ n ∧ n ≤ Int64.maxValue.toInt

instance (n : Int) : Decidable (Fits n) := inferInstanceAs (Decidable (_ ∧ _))

/-- The counts of data points. A point without a count counts as 0. -/
def countsOf (points : List (Option Int64)) : List Int64 := points.map (·.getD 0)

/-- The sum of the counts that data points hold, in the integers. -/
def attemptsOf (points : List (Option Int64)) : Int :=
  points.foldr (fun p sum => (p.map (·.toInt)).getD 0 + sum) 0

theorem exactTotal_countsOf (points : List (Option Int64)) :
    exactTotal (countsOf points) = attemptsOf points := by
  induction points with
  | nil => rfl
  | cons p points ih =>
    rw [countsOf, List.map_cons, exactTotal_cons, attemptsOf, List.foldr_cons]
    refine congrArg₂ (· + ·) ?_ ih
    cases p <;> rfl

theorem attemptsOf_perm {points points' : List (Option Int64)} (h : points.Perm points') :
    attemptsOf points = attemptsOf points' := by
  refine h.foldr_eq' (fun _ _ _ _ _ => ?_) 0
  exact Int.add_left_comm ..

theorem total_countsOf {points : List (Option Int64)} (h : Fits (attemptsOf points)) :
    (total (countsOf points)).toInt = attemptsOf points := by
  rw [← exactTotal_countsOf] at h ⊢
  exact total_toInt h.1 h.2

/-- Sums that fit compare as the exact sums do. -/
theorem total_lt_total_iff {before after : List Int64} (hb : Fits (exactTotal before))
    (ha : Fits (exactTotal after)) : total before < total after ↔ exactTotal before < exactTotal after := by
  rw [Int64.lt_iff_toInt_lt, total_toInt hb.1 hb.2, total_toInt ha.1 ha.2]

end Mail

theorem Method.read_deliveryAttempts_eq_ok_iff {reply : Reply (List Int64)} {n : Int64} :
    deliveryAttempts.read reply = .ok n ↔ ∃ counts, reply = .output counts ∧ Mail.total counts = n := by
  rw [read_eq_ok_iff (by simp)]
  exact exists_congr fun counts => and_congr_right fun _ => .of_eq (Except.ok.injEq ..)

namespace Check

open Mail

/-! ## The check -/

/-- The message of the check. -/
def countedMessage (sender : String) : EmailMessage :=
  .toOne sender "recipient@example.com" "Check" "Delivered"

/-- The requests of the check: two counts, and a delivery between them. -/
def countScript (sender : String) : List Request :=
  [.getSendStatistics, .verifyEmailIdentity sender,
    .sendEmail sender ["recipient@example.com"] "Check" "Delivered", .getSendStatistics]

/-- All four succeed, and these are the counts. -/
def countedDelivery (sender : String) (before : List Int64) (id : String) (after : List Int64) :
    List Exchange :=
  [⟨.getSendStatistics, .output before⟩,
    ⟨.verifyEmailIdentity sender, .output ()⟩,
    ⟨.sendEmail sender ["recipient@example.com"] "Check" "Delivered", .output id⟩,
    ⟨.getSendStatistics, .output after⟩]

theorem sends_countedMessage (name : String) :
    (Method.sendMail (countedMessage (Trial.sender name))).Sends :=
  EmailMessage.check_toOne (Trial.at_mem_sender name) (by decide) ..

/-- What the check does once it has a name. -/
def countTwice (name : String) : Checking Unit := do
  let before ← ofCall deliveryAttempts
  ofCall (verify (Trial.sender name))
  let _ ← ofCall (send (countedMessage (Trial.sender name)))
  let after ← ofCall deliveryAttempts
  ensure (before < after) s!"delivery attempts went from {before} to {after}"

theorem verifiedSendCountsDelivery_eq :
    verifiedSendCountsDelivery = ExceptT.lift (Session.freshName "sender") >>= countTwice := rfl

theorem scripted_countTwice (name : String) :
    Scripted (countTwice name) (countScript (Trial.sender name)) :=
  .step .deliveryAttempts rfl (by simp) (fun _ => ⟨_, rfl⟩) fun _ =>
  .step (.verify (Trial.sender name)) rfl (by simp) (fun _ => ⟨_, rfl⟩) fun _ =>
  .step (.sendMail (countedMessage (Trial.sender name))) (sends_countedMessage name) (by simp)
    (fun _ => ⟨_, rfl⟩) fun _ =>
  .step .deliveryAttempts rfl (by simp) (fun _ => ⟨_, rfl⟩) fun _ => .ensure _ _

theorem succeeds_countTwice (name : String) :
    Succeeds (countTwice name) fun _ xs => ∃ before id after,
      xs = countedDelivery (Trial.sender name) before id after ∧ total before < total after := by
  refine (Succeeds.step .deliveryAttempts rfl fun _ => .tell (.verify (Trial.sender name)) rfl
    (fun _ => rfl) fun _ => .tell (.sendMail (countedMessage (Trial.sender name)))
      (sends_countedMessage name) (fun _ => rfl) fun _ => .step .deliveryAttempts rfl fun _ =>
        .ensure _ _).congr fun _ xs => ⟨?_, ?_⟩
  · intro ⟨n, _, _, hb, hx, _, _, hy, id, _, hz, n', _, _, ha, hlast, hlt, hnil⟩
    obtain ⟨before, rfl, rfl⟩ := Method.read_deliveryAttempts_eq_ok_iff.1 hb
    obtain ⟨after, rfl, rfl⟩ := Method.read_deliveryAttempts_eq_ok_iff.1 ha
    refine ⟨before, id, after, ?_, of_decide_eq_true hlt⟩
    rw [hx, hy, hz, hlast, hnil]
    rfl
  · intro ⟨before, id, after, hx, hlt⟩
    exact ⟨total before, .output before, _, rfl, hx, (), _, rfl, id, _, rfl, total after,
      .output after, _, rfl, rfl, decide_eq_true hlt, rfl⟩

variable {σ : Type} (server : Server σ) (ids : Nat → Uuid) (w : World σ)

/-- The sender of the message. -/
def senderOf (ids : Nat → Uuid) (w : World σ) : String :=
  Trial.sender (resourceName "sender" (ids w.drawn))

/-- The check passes if the second count is greater as the client counts, which is in 64 bits. -/
theorem verifiedSendCountsDelivery_passes_iff :
    (Session.attempt verifiedSendCountsDelivery server ids w).1 = .ok () ↔ ∃ before id after,
      server.Answers (countedDelivery (senderOf ids w) before id after) w.service ∧
        total before < total after := by
  rw [verifiedSendCountsDelivery_eq]
  refine (Succeeds.of_freshName (fun name _ => succeeds_countTwice name) server ids w ()).trans ⟨?_, ?_⟩
  · intro ⟨xs, ⟨before, id, after, hx, hlt⟩, ha⟩
    rw [hx] at ha
    exact ⟨before, id, after, ha, hlt⟩
  · intro ⟨before, id, after, ha, hlt⟩
    exact ⟨_, ⟨before, id, after, rfl, hlt⟩, ha⟩

/-- **Deliveries are counted exactly, and a delivery must raise the count.** If the exact sum of some
points fits in 64 bits, it is what the client comes to, whatever order the service reports them in and
whatever the sums on the way. The check asks for the count, makes its sender verified, sends its message
and asks again, and stops at the first failure. If the exact sums of what it is told fit, it passes exactly
when all four succeed and the second is greater than the first. -/
theorem verifiedSend_counted_exactly :
    (∀ points reported, Fits (attemptsOf points) → reported.Perm points →
      (server.answer .getSendStatistics w.service).1 = .output (countsOf reported) →
        ∃ n, (Session.attempt deliveryAttempts server ids w).1 = .ok n ∧ n.toInt = attemptsOf points) ∧
    (Session.attempt verifiedSendCountsDelivery server ids w).2.requests =
      w.requests ++ server.untilFailure (countScript (senderOf ids w)) w.service ∧
    ((∀ before id after,
        server.Answers (countedDelivery (senderOf ids w) before id after) w.service →
          Fits (exactTotal before) ∧ Fits (exactTotal after)) →
      ((Session.attempt verifiedSendCountsDelivery server ids w).1 = .ok () ↔ ∃ before id after,
        server.Answers (countedDelivery (senderOf ids w) before id after) w.service ∧
          exactTotal before < exactTotal after)) := by
  refine ⟨fun points reported hfits horder hreply => ?_, ?_, fun hfits => ?_⟩
  · obtain ⟨w', e, -⟩ := (Method.deliveryAttempts.asks rfl).run server ids w
    have hread := Method.read_deliveryAttempts_eq_ok_iff.2 ⟨countsOf reported, hreply, rfl⟩
    refine ⟨total (countsOf reported), (congrArg Prod.fst e).trans hread, ?_⟩
    rw [← attemptsOf_perm horder] at hfits ⊢
    exact total_countsOf hfits
  · rw [verifiedSendCountsDelivery_eq]
    exact Scripted.of_freshName scripted_countTwice server ids w
  · rw [verifiedSendCountsDelivery_passes_iff]
    refine exists_congr fun before => exists_congr fun id => exists_congr fun after =>
      and_congr_right fun answers => ?_
    obtain ⟨hb, ha⟩ := hfits before id after answers
    exact total_lt_total_iff hb ha

/-- As many deliveries as there can be, less one until a message is sent. The first two points add up to
more than there can be. -/
def brimfulPoints (sent : Bool) : List (Option Int64) :=
  [some Int64.maxValue, some 1, none, some (if sent then -1 else -2)]

/-- A service that has counted these. -/
def brimful : Server Bool where
  answer
    | .getSendStatistics, sent => (.output (countsOf (brimfulPoints sent)), sent)
    | .verifyEmailIdentity _, sent => (.output (), sent)
    | .sendEmail .., _ => (.output "m-1", true)
    | _, sent => (.lost ⟨.connectIo, "connection refused"⟩, sent)

/-- They are counted exactly, as if they stood in another order, and the check passes. -/
theorem brimful_counted :
    (∃ n, (Session.attempt deliveryAttempts brimful (fun _ => 7) (.start false)).1 = .ok n ∧
      n.toInt = attemptsOf [none, some 1, some (-2), some Int64.maxValue]) ∧
    (Session.attempt verifiedSendCountsDelivery brimful (fun _ => 7) (.start false)).1 = .ok () := by
  obtain ⟨hcount, -, hpass⟩ := verifiedSend_counted_exactly brimful (fun _ => 7) (.start false)
  have hfits (sent : Bool) : Fits (exactTotal (countsOf (brimfulPoints sent))) := by
    cases sent <;> decide
  refine ⟨hcount _ (brimfulPoints false) (by decide) (by decide) rfl, (hpass ?_).2 ?_⟩
  · intro before id after answers
    obtain ⟨hb, -, -, ha, -⟩ := answers
    cases hb
    cases ha
    exact ⟨hfits false, hfits true⟩
  · exact ⟨countsOf (brimfulPoints false), "m-1", countsOf (brimfulPoints true),
      ⟨rfl, rfl, rfl, rfl, trivial⟩, by decide⟩

end Check

end CloudRehearsal
