import CloudRehearsal.Proofs.Methods

/-!
Mail is checked before it is sent. A message goes out when its sender and one of its recipients have a
character that shows, with all its recipients as they are; any other message is refused, and nothing
has happened then (`Mail.sent_iff_addressed`).

The check reads the sender first, so a blank sender is what is reported whoever the recipients are,
and one more recipient changes nothing about that.
-/
namespace CloudRehearsal

open Text

/-- The text has a character that is no white space. -/
def Text.Shows (s : String) : Prop := ∃ c ∈ s.toList, isBlank c = false

theorem Text.blank_eq_false_iff {s : String} : blank s = false ↔ Shows s := by
  simp [blank, Shows]

theorem Text.blank_iff_not_shows {s : String} : blank s = true ↔ ¬ Shows s := by
  rw [← blank_eq_false_iff, Bool.not_eq_false]

/-! ## The check -/

namespace EmailMessage

variable {m : EmailMessage}

/-- One of the recipients shows. -/
def Addressed (m : EmailMessage) : Prop := ∃ r ∈ m.recipients, Shows r

theorem all_blank_eq_false_iff : m.recipients.all blank = false ↔ m.Addressed := by
  simp [Addressed, blank_eq_false_iff]

theorem all_blank_iff_not_addressed : m.recipients.all blank = true ↔ ¬ m.Addressed := by
  rw [← all_blank_eq_false_iff, Bool.not_eq_false]

theorem check_of_blank_source (h : ¬ Shows m.source) : m.check = .error .emptySource := by
  rw [check, if_pos (blank_iff_not_shows.2 h)]

theorem check_of_not_addressed (h : Shows m.source) (hr : ¬ m.Addressed) :
    m.check = .error .noRecipients := by
  rw [check, blank_eq_false_iff.2 h, all_blank_iff_not_addressed.2 hr]
  rfl

theorem check_of_addressed (h : Shows m.source) (hr : m.Addressed) : m.check = .ok () := by
  rw [check, blank_eq_false_iff.2 h, all_blank_eq_false_iff.2 hr]
  rfl

theorem check_eq_emptySource_iff : m.check = .error .emptySource ↔ ¬ Shows m.source := by
  refine ⟨fun hc h => ?_, check_of_blank_source⟩
  by_cases hr : m.Addressed
  · rw [check_of_addressed h hr] at hc
    cases hc
  · rw [check_of_not_addressed h hr] at hc
    cases hc

theorem check_eq_ok_iff : m.check = .ok () ↔ Shows m.source ∧ m.Addressed := by
  refine ⟨fun hc => ?_, fun h => check_of_addressed h.1 h.2⟩
  by_cases hs : Shows m.source
  · by_cases hr : m.Addressed
    · exact ⟨hs, hr⟩
    · rw [check_of_not_addressed hs hr] at hc
      cases hc
  · rw [check_of_blank_source hs] at hc
    cases hc

theorem Addressed.withRecipient (h : m.Addressed) (recipient : String) :
    (m.withRecipient recipient).Addressed := by
  obtain ⟨r, hr, hshows⟩ := h
  exact ⟨r, List.mem_append_left _ hr, hshows⟩

theorem check_withRecipient_of_ok (h : m.check = .ok ()) (recipient : String) :
    (m.withRecipient recipient).check = .ok () := by
  obtain ⟨hs, hr⟩ := check_eq_ok_iff.1 h
  exact check_of_addressed hs (hr.withRecipient recipient)

theorem check_withRecipient_emptySource_iff (recipient : String) :
    (m.withRecipient recipient).check = .error .emptySource ↔ m.check = .error .emptySource := by
  rw [check_eq_emptySource_iff, check_eq_emptySource_iff]
  exact Iff.rfl

end EmailMessage

/-! ## Sending -/

namespace Mail

variable {σ : Type} {server : Server σ} {ids : Nat → Uuid} {w : World σ} {m : EmailMessage}

theorem attempt_send_of_error {e : ConfigError} (h : m.check = .error e) :
    Session.attempt (Mail.send m) server ids w = (.error (.config e), w) := by
  have hcheck : Session.attempt (Call.checked m.check) server ids w = (.error (.config e), w) := by
    rw [h]
    rfl
  exact Session.attempt_bind_error hcheck

theorem attempt_send_of_ok (h : m.check = .ok ()) :
    (Session.attempt (Mail.send m) server ids w).2.requests =
        w.requests ++ [.sendEmail m.source m.recipients m.subject m.body] ∧
      (Session.attempt (Mail.send m) server ids w).2.service =
        (server.answer (.sendEmail m.source m.recipients m.subject m.body) w.service).2 := by
  obtain ⟨w', hrun, hnoted⟩ := ((Method.sendMail m).asks h).run server ids w
  rw [hrun]
  exact ⟨hnoted.requests, hnoted.service⟩

/-- **Mail is sent when it has a sender and a recipient**, and only then. Whatever the service is, a
request to send goes out exactly when the sender and at least one recipient have a character that is
no white space; it holds the message as it is, and the service meets nothing else. A blank sender is
reported whoever the recipients are, and otherwise that no recipient shows, and then nothing has
happened. One more recipient never makes a message fail that passed, and never changes whether the
sender is what it fails for. -/
theorem sent_iff_addressed (server : Server σ) (ids : Nat → Uuid) (w : World σ)
    (m : EmailMessage) :
    ((Session.attempt (Mail.send m) server ids w).2.requests =
        w.requests ++ [.sendEmail m.source m.recipients m.subject m.body] ↔
      Shows m.source ∧ ∃ r ∈ m.recipients, Shows r) ∧
    ((Shows m.source ∧ ∃ r ∈ m.recipients, Shows r) →
      (Session.attempt (Mail.send m) server ids w).2.service =
        (server.answer (.sendEmail m.source m.recipients m.subject m.body) w.service).2) ∧
    (¬ Shows m.source →
      Session.attempt (Mail.send m) server ids w = (.error (.config .emptySource), w)) ∧
    (Shows m.source → (¬ ∃ r ∈ m.recipients, Shows r) →
      Session.attempt (Mail.send m) server ids w = (.error (.config .noRecipients), w)) ∧
    (∀ recipient : String,
      (m.check = .ok () → (m.withRecipient recipient).check = .ok ()) ∧
      ((m.withRecipient recipient).check = .error .emptySource ↔ m.check = .error .emptySource)) := by
  refine ⟨⟨fun hsent => ?_, fun h => ?_⟩, fun h => ?_, fun h => ?_, fun h hr => ?_, fun recipient => ?_⟩
  · refine EmailMessage.check_eq_ok_iff.1 ?_
    cases hc : m.check with
    | ok u => rfl
    | error e =>
      rw [attempt_send_of_error hc] at hsent
      simp at hsent
  · exact (attempt_send_of_ok (EmailMessage.check_of_addressed h.1 h.2)).1
  · exact (attempt_send_of_ok (EmailMessage.check_of_addressed h.1 h.2)).2
  · exact attempt_send_of_error (EmailMessage.check_of_blank_source h)
  · exact attempt_send_of_error (EmailMessage.check_of_not_addressed h hr)
  · exact ⟨fun h => EmailMessage.check_withRecipient_of_ok h recipient,
      EmailMessage.check_withRecipient_emptySource_iff recipient⟩

end Mail

end CloudRehearsal
