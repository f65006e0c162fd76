import CloudRehearsal.Client.Call
import CloudRehearsal.EmailMessage

/-!
Mail to the outside: verified senders, messages, and the count of deliveries. Every function sends
one request, and none when a message fails its check.
-/
namespace CloudRehearsal.Mail

/-- An event of this client. -/
def event (level : Log.Level) (message : String) (fields : List Log.Field) : Log.Event :=
  ⟨level, "localmock::logic::email", message, fields⟩

/-- Makes an address a verified sender. -/
def verify (address : String) : Call Unit := do
  Call.sendPlain (.verifyEmailIdentity address)
  Call.note (event .info "Verified email identity" [.quoted "address" address])

/-- The addresses of the verified senders. -/
def verifiedAddresses : Call (List String) := Call.sendPlain .listVerifiedEmailAddresses

/-- Sends a message; gives its identifier. -/
def send (m : EmailMessage) : Call String := do
  Call.checked m.check
  Call.note (event .debug "SendEmail"
    [.plain "source" m.source, .plain "recipients" (toString m.recipients.length)])
  Call.send (.sendEmail m.source m.recipients m.subject m.body) (ClientError.ofSendEmail m.source)

/-- The sum of all counts, in 64 bits. -/
def total (counts : List Int64) : Int64 := counts.foldl (· + ·) 0

/-- How many deliveries have been attempted in all. -/
def deliveryAttempts : Call Int64 := do
  let counts : List Int64 ← Call.sendPlain .getSendStatistics
  return total counts

end CloudRehearsal.Mail
