import CloudRehearsal.Configuration
import CloudRehearsal.Json.Record
import CloudRehearsal.Json.Value
import CloudRehearsal.Text.Basic

/-!
A message of plain text from one sender to any number of recipients. `EmailMessage.check` is what a
message must pass before it is sent.
-/
namespace CloudRehearsal

open Text

/-- A message of plain text. -/
structure EmailMessage where
  source : String
  recipients : List String
  subject : String
  body : String
  deriving DecidableEq, Repr

namespace EmailMessage

/-- A message to one recipient. -/
def toOne (source recipient subject body : String) : EmailMessage :=
  ⟨source, [recipient], subject, body⟩

/-- The message with one more recipient. -/
def withRecipient (m : EmailMessage) (recipient : String) : EmailMessage :=
  { m with recipients := m.recipients ++ [recipient] }

/-- The sender is not blank, and neither is every recipient; a blank sender counts first. -/
def check (m : EmailMessage) : Except ConfigError Unit :=
  if blank m.source then .error .emptySource
  else if m.recipients.all blank then .error .noRecipients
  else .ok ()

/-- Addresses pass the check of a message. -/
theorem check_toOne {source recipient : String} (hs : '@' ∈ source.toList)
    (hr : '@' ∈ recipient.toList) (subject body : String) :
    (toOne source recipient subject body).check = .ok () := by
  have hblank : ∀ {s : String}, '@' ∈ s.toList → blank s = false := by
    intro s h
    rw [← Bool.not_eq_true, blank_eq_true_iff]
    exact fun hall => absurd (hall '@' h) (by decide)
  simp [check, toOne, hblank hs, hblank hr]

/-! ## JSON -/

def toJson (m : EmailMessage) : Json :=
  .record [("source", .text m.source), ("to", .list (m.recipients.map .text)),
    ("subject", .text m.subject), ("body", .text m.body)]

/-- The fields in the order in which they are written. -/
def fields : Json.Fields :=
  [("source", .text), ("to", .texts), ("subject", .text), ("body", .text)]

/-- The message whose fields have been found. -/
def ofFound (found : Json.Found) : Option EmailMessage := do
  return ⟨← found.text? "source", ← found.texts? "to", ← found.text? "subject", ← found.text? "body"⟩

/-- The message that a JSON text holds. -/
def ofJson (s : String) : Except Json.Fault EmailMessage := Json.readRecord fields ofFound s

end EmailMessage

end CloudRehearsal
