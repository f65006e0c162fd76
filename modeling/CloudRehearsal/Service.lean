import CloudRehearsal.Configuration
import CloudRehearsal.Json.Record
import CloudRehearsal.Json.Value
import CloudRehearsal.Text.Basic

/-!
The provider services that are rehearsed, each with the provider's own identifier for it and with a name
in JSON, which is the same (`Service.jsonName_eq_id`).

An identifier is read up to the case of its letters from the command line (`Service.ofId`), a name
exactly from JSON (`Service.ofJson`). What is written, either way, reads back.
-/
namespace CloudRehearsal

open Text

/-- A service with a mock. -/
inductive Service where
  /-- Objects in buckets. -/
  | storage
  /-- Items in tables. -/
  | tableStore
  /-- Messages published to topics. -/
  | notification
  /-- Mail to the outside. -/
  | email
  /-- Users who sign in. -/
  | directory
  deriving DecidableEq, Repr

namespace Service

/-- Every service, in the order in which samples run. -/
def all : List Service := [.storage, .tableStore, .notification, .email, .directory]

theorem mem_all (s : Service) : s ∈ all := by cases s <;> simp [all]

/-- The provider's identifier. -/
def id : Service → String
  | .storage => "s3"
  | .tableStore => "dynamodb"
  | .notification => "sns"
  | .email => "ses"
  | .directory => "cognito-idp"

/-- The name that people use. -/
def label : Service → String
  | .storage => "Storage"
  | .tableStore => "Table store"
  | .notification => "Notification"
  | .email => "Email"
  | .directory => "Directory"

/-- The service of an identifier, whatever the case of its letters. -/
def ofId (s : String) : Except ConfigError Service :=
  match all.find? fun service => sameLetters service.id s with
  | some service => .ok service
  | none => .error (.unknownService s)

/-! ## JSON -/

/-- The name of a service in JSON. -/
def jsonName : Service → String
  | .storage => "s3"
  | .tableStore => "dynamodb"
  | .notification => "sns"
  | .email => "ses"
  | .directory => "cognito-idp"

theorem jsonName_eq_id (s : Service) : s.jsonName = s.id := by cases s <;> rfl

/-- A service is written as its name. -/
def toJson (s : Service) : Json := .text s.jsonName

/-- The service of exactly this name. -/
def named (s : String) : Except Json.Fault Service :=
  match all.find? fun service => service.jsonName == s with
  | some service => .ok service
  | none => .error .otherForm

/-- Reads null. -/
def readNull (cs : List Char) : Except Json.Fault (List Char) :=
  match Json.skipSpaces cs with
  | [] => .error .endsEarly
  | 'n' :: rest => Json.word ['u', 'l', 'l'] rest
  | c :: rest => .error (Json.wrongKind c rest)

/-- Reads what follows the brace of an object whose one member is the service, with a null. -/
def readMember (cs : List Char) : Except Json.Fault (Service × List Char) := do
  let (name, rest) ← Json.name (Json.skipSpaces cs)
  let service ← named name
  let rest ← readNull (← Json.colon rest)
  match Json.skipSpaces rest with
  | [] => throw .endsEarly
  | c :: rest => if c = '\x7d' then return (service, rest) else throw .malformed

/-- Reads a service from its name, or from an object such as one that maps the name to null. -/
def read (cs : List Char) : Except Json.Fault (Service × List Char) :=
  match Json.skipSpaces cs with
  | [] => .error .endsEarly
  | c :: rest =>
    if c = '"' then do
      let (name, rest) ← Json.string rest
      return (← named name, rest)
    else if c = '\x7b' then readMember rest
    else .error .malformed

/-- The service that a JSON text holds. -/
def ofJson (s : String) : Except Json.Fault Service := do
  let (service, rest) ← read s.toList
  Json.atEnd rest
  return service

end Service

end CloudRehearsal
