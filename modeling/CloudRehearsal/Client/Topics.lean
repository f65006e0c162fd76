import CloudRehearsal.Client.Call
import CloudRehearsal.Text.Utf8

/-!
Topics and the messages published to them. Every function sends one request.
-/
namespace CloudRehearsal.Topics

open Text

/-- An event of this client. -/
def event (level : Log.Level) (message : String) (fields : List Log.Field) : Log.Event :=
  ⟨level, "localmock::logic::topic", message, fields⟩

/-- Creates a topic; gives its resource name. -/
def create (name : String) : Call String := do
  let reported ← Call.sendPlain (.createTopic name)
  let arn ← Call.required "TopicArn" reported
  Call.note (event .info "Created topic" [.plain "topic" arn])
  return arn

/-- The resource names of the topics; a topic without one is left out. -/
def list : Call (List String) := do
  let arns : List (Option String) ← Call.sendPlain .listTopics
  return arns.filterMap id

/-- Publishes a message; gives its identifier. -/
def publish (arn : String) (subject : Option String) (message : String) : Call String := do
  Call.note (event .debug "Publish"
    [.quoted "topic" arn, .plain "bytes" (toString (Utf8.bytes message).length)])
  let reported ← Call.sendPlain (.publish arn subject message)
  Call.required "MessageId" reported

/-- Deletes a topic. -/
def delete (arn : String) : Call Unit := do
  Call.sendPlain (.deleteTopic arn)
  Call.note (event .info "Deleted topic" [.quoted "topic" arn])

end CloudRehearsal.Topics
