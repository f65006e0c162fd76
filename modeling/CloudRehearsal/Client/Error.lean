import CloudRehearsal.Configuration
import CloudRehearsal.Exchange.Reply
import CloudRehearsal.Text.Basic

/-!
What can go wrong in a call to a service, in the caller's terms, and how the answers of the services
are brought to these terms.

Only the answers that callers tell apart become errors of their own: a name that is taken, a resource
that is missing, a sender that is not verified. Every other error of a service keeps its code and
message, and a request without a response becomes a failed dispatch.
-/
namespace CloudRehearsal

open Text

/-- What went wrong in a call to a service. -/
inductive ClientError where
  | alreadyExists (resource id message : String)
  | notFound (resource id message : String)
  | notVerified (address message : String)
  | service (operation code message : String)
  /-- There was no response. -/
  | dispatch (operation message : String)
  | invalidRequest (fault : String)
  | config (error : ConfigError)
  | missingField (field : String)
  /-- The bytes of an object could not be read. -/
  | body (fault : String)
  | challengeRequired (challenge : String)
  deriving DecidableEq, Repr

namespace ClientError

/-- The sentence that reports an error. -/
def display : ClientError → String
  | alreadyExists _ _ message | notFound _ _ message | notVerified _ message => message
  | service operation code message => s!"{operation} failed with {code}: {message}"
  | dispatch operation message => s!"{operation} request failed: {message}"
  | invalidRequest fault => s!"Invalid request: {fault}"
  | config error => s!"Invalid configuration: {error.message}"
  | missingField field => s!"Response is missing {field}"
  | body fault => s!"Failed to read object body: {fault}"
  | challengeRequired challenge => s!"Authentication requires the {challenge} challenge"

/-- The service's own words, or the whole report of an error that is not a service's. -/
def message (e : ClientError) : String :=
  match e with
  | alreadyExists _ _ message | notFound _ _ message | notVerified _ message => message
  | service _ _ message | dispatch _ message => message
  | _ => e.display

/-- The code of an error that keeps it. -/
def code? : ClientError → Option String
  | service _ code _ => some code
  | _ => none

/-- The texts of the errors that an error wraps. -/
def sources : ClientError → List String
  | config error => [error.message]
  | invalidRequest fault => [fault]
  | _ => []

/-! ## From a service's answer -/

/-- The message of an exception, or its text when the message is missing or empty. -/
def wordsOf (x : ServiceException) : String :=
  match x.message with
  | some said => if said = "" then x.display else said
  | none => x.display

/-- Any failure of an operation: a service's error with its code and message, or a failed
dispatch. -/
def ofSend (operation : String) : SendError → ClientError
  | .service fault =>
    .service operation (fault.code.getD "Unknown") (fault.message.getD fault.display)
  | .lost call => .dispatch operation call.report

/-- A failure whose exceptions among `names` mean what `make` says of their words. -/
def ofException (names : List String) (make : String → ClientError) (operation : String)
    (e : SendError) : ClientError :=
  match e.exceptionIn? names with
  | some x => make (wordsOf x)
  | none => ofSend operation e

/-- A failed creation of a table: the name may be taken. -/
def ofCreateTable (table : String) : SendError → ClientError :=
  ofException ["ResourceInUseException"] (alreadyExists "Table" table) "CreateTable"

/-- A failed description of a table: it may be missing. -/
def ofDescribeTable (table : String) : SendError → ClientError :=
  ofException ["ResourceNotFoundException"] (notFound "Table" table) "DescribeTable"

/-- A failed creation of a bucket: the name may be taken, by the caller or by somebody else. -/
def ofCreateBucket (bucket : String) : SendError → ClientError :=
  ofException ["BucketAlreadyExists", "BucketAlreadyOwnedByYou"] (alreadyExists "Bucket" bucket)
    "CreateBucket"

/-- A failed download: the object may be missing. -/
def ofGetObject (bucket key : String) : SendError → ClientError :=
  ofException ["NoSuchKey"] (notFound "Object" s!"{bucket}/{key}") "GetObject"

/-- A failed creation of a user: the name may be taken. -/
def ofAdminCreateUser (username : String) : SendError → ClientError :=
  ofException ["UsernameExistsException"] (alreadyExists "User" username) "AdminCreateUser"

/-- The words by which a rejected message shows that its sender is not verified. -/
def unverifiedWords : String := "not verified"

/-- A failed sending: the message may have been rejected because its sender is not verified. Any
other rejection keeps its name as the code. -/
def ofSendEmail (source : String) (e : SendError) : ClientError :=
  match e.exceptionIn? ["MessageRejected"] with
  | some x =>
    if x.message.any (contains · unverifiedWords) then notVerified source (wordsOf x)
    else service "SendEmail" "MessageRejected" (wordsOf x)
  | none => ofSend "SendEmail" e

end ClientError

end CloudRehearsal
