import CloudRehearsal.Text.Raw

/-!
What a configuration is made of: the variables that the programs read from their surroundings, spans of
time, and the faults of a configured value or of one that is about to be sent, which are found without
asking any service.
-/
namespace CloudRehearsal

open Text

/-! ## Variables -/

/-- The values of the variables that are set. -/
structure Environment where
  /-- Where the mock server listens. -/
  endpointUrl : Option RawText
  /-- The region that clients are built for. -/
  region : Option RawText
  /-- Which events are logged. -/
  logFilter : Option RawText

namespace Environment

/-- No variable is set. -/
def unset : Environment := ⟨none, none, none⟩

/-- Looks the variables up by their names. -/
def lookUp {m : Type → Type} [Monad m] (value : String → m (Option RawText)) : m Environment :=
  return ⟨← value "LOCALMOCK_ENDPOINT_URL", ← value "AWS_REGION", ← value "RUST_LOG"⟩

end Environment

/-! ## Spans of time -/

/-- A span of time. -/
structure Duration where
  seconds : Nat
  /-- Fewer than a second's worth. -/
  nanos : Nat
  deriving DecidableEq, Repr

namespace Duration

/-- Whole seconds. -/
def ofSeconds (n : Nat) : Duration := ⟨n, 0⟩

/-- The span in nanoseconds. -/
def toNanos (d : Duration) : Nat := d.seconds * 1000000000 + d.nanos

end Duration

/-! ## Faults -/

/-- What is wrong with a configured value. -/
inductive ConfigError where
  | invalidEndpoint (url reason : String)
  | emptyRegion
  | unknownService (id : String)
  | emptySource
  | noRecipients
  deriving DecidableEq, Repr

/-- The sentence that reports the fault. -/
def ConfigError.message : ConfigError → String
  | .invalidEndpoint url reason => s!"Invalid endpoint URL '{url}': {reason}"
  | .emptyRegion => "Region cannot be empty"
  | .unknownService id => s!"Unknown service: {id}"
  | .emptySource => "Email source address cannot be empty"
  | .noRecipients => "Email message needs at least one recipient"

end CloudRehearsal
