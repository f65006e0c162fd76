import CloudRehearsal.Proofs.ErrorClasses
import CloudRehearsal.Proofs.Passing
import CloudRehearsal.Proofs.Trials

/-!
When the check of unverified senders passes: exactly when the one message that it sends is rejected in
the words that are expected, no more and no fewer (`unverifiedSenderRejected_passes_iff`).

Two comparisons meet here. The client takes a rejection to be about the sender if its words hold two
words, wherever they stand; the check then compares the whole. The expected words hold these two
(`rejectionWords_unverified`), so the client never keeps a proper rejection from the check.
-/
namespace CloudRehearsal

open Checking Text

/-- The words in which mail from a sender who is not verified is to be rejected. -/
def rejectionWords (sender : String) : String := s!"Email address not verified {sender}"

theorem rejectionWords_unverified (sender : String) :
    "not verified".toList <:+: (rejectionWords sender).toList := by
  have h : rejectionWords sender = "Email address " ++ "not verified" ++ " " ++ sender := rfl
  rw [h, String.toList_append, String.toList_append, String.toList_append, List.append_assoc]
  exact List.infix_append ..

namespace Method

/-- What a sending comes to is about the sender exactly when the message is rejected in words that say
so. -/
theorem read_sendMail_eq_notVerified_iff {mail : EmailMessage} {reply : Reply String}
    {address words : String} :
    (sendMail mail).read reply = .error (.notVerified address words) ↔
      ∃ fault, reply = .error fault ∧ fault.Says "MessageRejected" words ∧
        "not verified".toList <:+: words.toList ∧ address = mail.source := by
  cases reply with
  | output id => exact iff_of_false nofun nofun
  | lost call => exact iff_of_false nofun nofun
  | error fault =>
    have hread : (sendMail mail).read (.error fault) =
        .error (ClientError.ofSendEmail mail.source (.service fault)) := rfl
    rw [hread, Except.error.injEq, ClientError.ofSendEmail_eq_notVerified_iff]
    simp

end Method

namespace Check

/-! ## The judgement -/

/-- What the check makes of what the sending has come to. -/
def judged (sender : String) : Except ClientError String → Except CheckError Unit
  | .ok _ => .error (.assertion s!"unverified sender {sender} was accepted")
  | .error (.notVerified _ words) =>
    if words == rejectionWords sender then .ok ()
    else .error (.assertion s!"expected {quoted (rejectionWords sender)}, got {quoted words}")
  | .error e => .error (.client e)

theorem judged_notVerified_eq {sender words : String} (h : words = rejectionWords sender)
    (address : String) : judged sender (.error (.notVerified address words)) = .ok () :=
  if_pos (beq_iff_eq.2 h)

theorem judged_notVerified_ne {sender words : String} (h : words ≠ rejectionWords sender)
    (address : String) :
    judged sender (.error (.notVerified address words)) =
      .error (.assertion s!"expected {quoted (rejectionWords sender)}, got {quoted words}") :=
  if_neg (beq_iff_eq.not.2 h)

theorem judged_eq_ok_iff {sender : String} {sent : Except ClientError String} :
    judged sender sent = .ok () ↔
      ∃ address, sent = .error (.notVerified address (rejectionWords sender)) := by
  cases sent with
  | ok id => simp [judged]
  | error e => cases e <;> simp [judged]

theorem judged_assertion_iff {sender : String} {sent : Except ClientError String} :
    (∃ message, judged sender sent = .error (.assertion message)) ↔
      (∃ id, sent = .ok id) ∨
        ∃ address words, sent = .error (.notVerified address words) ∧ words ≠ rejectionWords sender := by
  cases sent with
  | ok id => simp [judged]
  | error e =>
    cases e with
    | notVerified address words =>
      by_cases h : words = rejectionWords sender
      · rw [judged_notVerified_eq h]
        simp [h]
      · rw [judged_notVerified_ne h]
        simp [h]
    | _ => simp [judged]

theorem judged_read_iff {sender : String} {mail : EmailMessage} {reply : Reply String} :
    judged sender ((Method.sendMail mail).read reply) = .ok () ↔
      ∃ fault, reply = .error fault ∧ fault.Says "MessageRejected" (rejectionWords sender) := by
  rw [judged_eq_ok_iff]
  constructor
  · intro ⟨address, h⟩
    obtain ⟨fault, hreply, hs, -⟩ := Method.read_sendMail_eq_notVerified_iff.1 h
    exact ⟨fault, hreply, hs⟩
  · intro ⟨fault, hreply, hs⟩
    exact ⟨mail.source, Method.read_sendMail_eq_notVerified_iff.2
      ⟨fault, hreply, hs, rejectionWords_unverified sender, rfl⟩⟩

/-- The check finds fault with a message that is accepted, and with one that is rejected because of its
sender in other words. Any other failure it passes on. -/
theorem judged_read_assertion_iff {sender : String} {mail : EmailMessage} {reply : Reply String} :
    (∃ message, judged sender ((Method.sendMail mail).read reply) = .error (.assertion message)) ↔
      (∃ id, reply = .output id) ∨
        ∃ fault said, reply = .error fault ∧ fault.Says "MessageRejected" said ∧
          "not verified".toList <:+: said.toList ∧ said ≠ rejectionWords sender := by
  rw [judged_assertion_iff]
  refine or_congr (exists_congr fun id => Method.read_eq_ok_iff_of_response rfl) ⟨?_, ?_⟩
  · intro ⟨address, said, h, hne⟩
    obtain ⟨fault, hreply, hs, hu, -⟩ := Method.read_sendMail_eq_notVerified_iff.1 h
    exact ⟨fault, said, hreply, hs, hu, hne⟩
  · intro ⟨fault, said, hreply, hs, hu, hne⟩
    exact ⟨mail.source, said,
      Method.read_sendMail_eq_notVerified_iff.2 ⟨fault, hreply, hs, hu, rfl⟩, hne⟩

/-! ## The check -/

/-- The message of the check. -/
def strangersMail (sender : String) : EmailMessage :=
  .toOne sender "recipient@example.com" "Check" "Not delivered"

/-- The request by which it is sent. -/
def strangersRequest (sender : String) : Request :=
  .sendEmail sender ["recipient@example.com"] "Check" "Not delivered"

variable {σ : Type} (server : Server σ) (ids : Nat → Uuid) (w : World σ)

/-- The sender of the message. -/
def strangerOf (ids : Nat → Uuid) (w : World σ) : String :=
  Trial.stranger (resourceName "sender" (ids w.drawn))

/-- How the service answers the message. -/
def strangersReply : Reply String :=
  (server.answer (strangersRequest (strangerOf ids w)) w.service).1

theorem attempt_unverifiedSenderRejected :
    ∃ w', Session.attempt unverifiedSenderRejected server ids w =
        (judged (strangerOf ids w)
          ((Method.sendMail (strangersMail (strangerOf ids w))).read (strangersReply server ids w)), w') ∧
      w'.requests = w.requests ++ [strangersRequest (strangerOf ids w)] := by
  have hs : (Method.sendMail (strangersMail (strangerOf ids w))).Sends :=
    EmailMessage.check_toOne (Trial.at_mem_stranger _) (by decide) ..
  obtain ⟨w', e, n⟩ := ((Method.sendMail _).asks hs).run server ids w.drew
  have e : Session.attempt (Mail.send (strangersMail (strangerOf ids w))) server ids w.drew =
    ((Method.sendMail _).read (strangersReply server ids w), w') := e
  refine ⟨w', ?_, n.requests⟩
  unfold unverifiedSenderRejected
  rw [Session.attempt_bind_ok (attempt_freshName _ w)]
  refine (Session.attempt_bind_ok (Session.attempt_lift_run e)).trans ?_
  cases (Method.sendMail (strangersMail (strangerOf ids w))).read (strangersReply server ids w) with
  | ok id => rfl
  | error failure =>
    cases failure with
    | notVerified address words =>
      simp only [judged]
      split
      next h => exact attempt_ensure_true h _
      next h => exact attempt_ensure_false (Bool.eq_false_iff.2 h) _
    | _ => rfl

/-- **When the check of unverified senders passes.** It sends one message from its sender, and passes
exactly when that is rejected in the expected words. Another reply fails it: the failure is the check's
own if the message is accepted, or rejected in words that speak of a sender who is not verified but are
not the expected ones, and no other. -/
theorem unverifiedSenderRejected_passes_iff :
    (Session.attempt unverifiedSenderRejected server ids w).2.requests =
        w.requests ++ [.sendEmail (strangerOf ids w) ["recipient@example.com"] "Check" "Not delivered"] ∧
    ((Session.attempt unverifiedSenderRejected server ids w).1 = .ok () ↔
      ∃ fault, strangersReply server ids w = .error fault ∧
        fault.Says "MessageRejected" s!"Email address not verified {strangerOf ids w}") ∧
    ((∃ message,
        (Session.attempt unverifiedSenderRejected server ids w).1 = .error (.assertion message)) ↔
      (∃ id, strangersReply server ids w = .output id) ∨
        ∃ fault said, strangersReply server ids w = .error fault ∧
          fault.Says "MessageRejected" said ∧ "not verified".toList <:+: said.toList ∧
          said ≠ s!"Email address not verified {strangerOf ids w}") := by
  obtain ⟨w', e, hsent⟩ := attempt_unverifiedSenderRejected server ids w
  rw [e]
  exact ⟨hsent, judged_read_iff, judged_read_assertion_iff⟩

end Check

end CloudRehearsal
