import CloudRehearsal.Client.Call
import CloudRehearsal.Endpoint
import CloudRehearsal.Text.Utf8

/-!
Buckets of objects: their life, and objects that hold text. Every function sends one request.
-/
namespace CloudRehearsal

open Text

/-- A client for buckets. -/
structure Buckets where
  /-- The region in which buckets are created. -/
  region : String

namespace Buckets

/-- An event of this client. -/
def event (level : Log.Level) (message : String) (fields : List Log.Field) : Log.Event :=
  ⟨level, "localmock::logic::bucket", message, fields⟩

/-- The constraint that creates a bucket in a region: the default region must not be named, and any
other must be. -/
def locationConstraint (region : String) : Option String :=
  if region = Endpoint.defaultRegion then none else some region

/-- Creates a bucket. -/
def create (b : Buckets) (bucket : String) : Call Unit := do
  Call.note (event .debug "CreateBucket" [.quoted "bucket" bucket, .plain "region" b.region])
  Call.send (.createBucket bucket (locationConstraint b.region)) (ClientError.ofCreateBucket bucket)
  Call.note (event .info "Created bucket" [.quoted "bucket" bucket])

/-- Whether a bucket exists. Only the error for a missing bucket says no; any other is a failure. -/
def contains (bucket : String) : Call Bool :=
  ExceptT.mk do
    match ← Session.send (.headBucket bucket) with
    | .ok _ => return .ok true
    | .error e =>
      match e.exceptionIn? ["NotFound"] with
      | some _ => return .ok false
      | none => return .error (ClientError.ofSend Operation.headBucket.name e)

/-- The names of the buckets; one without a name is left out. -/
def list : Call (List String) := do
  let names : List (Option String) ← Call.sendPlain .listBuckets
  return names.filterMap id

/-- Uploads a text as an object. -/
def putText (bucket key content : String) : Call Unit := do
  let bytes := Utf8.bytes content
  Call.note (event .debug "PutObject"
    [.quoted "bucket" bucket, .quoted "key" key, .plain "bytes" (toString bytes.length)])
  Call.sendPlain (.putObject bucket key bytes)

/-- Downloads the bytes of an object. -/
def getBytes (bucket key : String) : Call (List UInt8) := do
  let body ← Call.send (.getObject bucket key) (ClientError.ofGetObject bucket key)
  match body with
  | .complete bytes => return bytes
  | .broken => throw (.body "streaming error")

/-- Downloads an object that holds text. -/
def getText (bucket key : String) : Call String := do
  let bytes ← getBytes bucket key
  match Utf8.text? bytes with
  | .ok text => return text
  | .error fault => throw (.body fault.message)

/-- Deletes an object. -/
def deleteObject (bucket key : String) : Call Unit := Call.sendPlain (.deleteObject bucket key)

/-- Deletes an empty bucket. -/
def delete (bucket : String) : Call Unit := do
  Call.sendPlain (.deleteBucket bucket)
  Call.note (event .info "Deleted bucket" [.quoted "bucket" bucket])

end Buckets

end CloudRehearsal
