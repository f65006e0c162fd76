import CloudRehearsal.Endpoint

/-!
Settings of an endpoint, one after another. A setting writes one field and leaves the others
(`Endpoint.apply_eq`), so settings of different fields may change places (`Endpoint.apply_comm`), and
of several settings of one field the last one holds (`Endpoint.last_setting_holds`).

The wait is the one field that two settings write: the slow network is a wait of a minute.
-/
namespace CloudRehearsal.Endpoint

/-- What a setting is about. -/
inductive Field where
  | url
  | region
  | socketTimeout
  deriving DecidableEq, Repr

/-- One setting, with what the field is set to. -/
inductive Setting where
  | url (text : String)
  | region (name : String)
  | socketTimeout (wait : Duration)
  | slowNetwork
  deriving DecidableEq, Repr

namespace Setting

def field : Setting → Field
  | .url _ => .url
  | .region _ => .region
  | .socketTimeout _ | .slowNetwork => .socketTimeout

/-- The URL that is set. -/
def url? : Setting → Option String
  | .url text => some text
  | _ => none

/-- The region that is set. -/
def region? : Setting → Option String
  | .region name => some name
  | _ => none

/-- The wait that is set. -/
def wait? : Setting → Option Duration
  | .socketTimeout wait => some wait
  | .slowNetwork => some (.ofSeconds 60)
  | _ => none

end Setting

variable {e : Endpoint} {s t : Setting} {calls others : List Setting} {α : Type}

/-! ## One setting -/

/-- The endpoint with a setting. -/
def apply (e : Endpoint) : Setting → Endpoint
  | .url text => e.withUrl text
  | .region name => e.withRegion name
  | .socketTimeout wait => e.withSocketTimeout wait
  | .slowNetwork => e.slowNetwork

/-- Each field is what the setting says of it, or what it was. -/
theorem apply_eq (e : Endpoint) (s : Setting) :
    e.apply s = ⟨s.url?.getD e.url, s.region?.getD e.region, s.wait?.or e.socketTimeout⟩ := by
  cases s with
  | url | region | socketTimeout | slowNetwork => rfl

/-- Settings of different fields do not meet. -/
theorem apply_comm (e : Endpoint) (h : s.field ≠ t.field) :
    (e.apply s).apply t = (e.apply t).apply s := by
  cases s with
  | url =>
    cases t with
    | url => exact absurd rfl h
    | region | socketTimeout | slowNetwork => rfl
  | region =>
    cases t with
    | region => exact absurd rfl h
    | url | socketTimeout | slowNetwork => rfl
  | socketTimeout | slowNetwork =>
    cases t with
    | socketTimeout | slowNetwork => exact absurd rfl h
    | url | region => rfl

/-! ## Settings one after another -/

/-- The endpoint with the settings, the first one first. -/
def configure (e : Endpoint) (calls : List Setting) : Endpoint := calls.foldl apply e

/-- What `read` gives for the last of the settings for which it gives anything. -/
def lastOf (read : Setting → Option α) (calls : List Setting) : Option α :=
  (calls.filterMap read).getLast?

theorem lastOf_cons (read : Setting → Option α) (s : Setting) (calls : List Setting) :
    lastOf read (s :: calls) = (lastOf read calls).or (read s) := by
  unfold lastOf
  cases hs : read s with
  | none => rw [List.filterMap_cons_none hs, Option.or_none]
  | some a =>
    rw [List.filterMap_cons_some hs, List.getLast?_cons]
    cases (calls.filterMap read).getLast? <;> rfl

/-- Of the settings of a field the last one holds. -/
theorem configure_eq (e : Endpoint) (calls : List Setting) :
    e.configure calls =
      ⟨(lastOf Setting.url? calls).getD e.url, (lastOf Setting.region? calls).getD e.region,
        (lastOf Setting.wait? calls).or e.socketTimeout⟩ := by
  induction calls generalizing e with
  | nil => rfl
  | cons s calls ih =>
    rw [lastOf_cons, lastOf_cons, lastOf_cons, Option.getD_or, Option.getD_or, Option.or_assoc]
    -- the settings that follow start from what the first one has left
    exact (ih (e.apply s)).trans (by rw [apply_eq])

/-- The same settings in another order, in which those of one field follow one another as before. -/
inductive Reordered : List Setting → List Setting → Prop where
  | nil : Reordered [] []
  | cons (s : Setting) {calls others : List Setting} (h : Reordered calls others) :
      Reordered (s :: calls) (s :: others)
  | swap {s t : Setting} (h : s.field ≠ t.field) (calls : List Setting) :
      Reordered (s :: t :: calls) (t :: s :: calls)
  | trans {calls between others : List Setting} (h : Reordered calls between)
      (h' : Reordered between others) : Reordered calls others

theorem Reordered.configure_eq (h : Reordered calls others) (e : Endpoint) :
    e.configure calls = e.configure others := by
  induction h generalizing e with
  | nil => rfl
  | cons s _ ih => exact ih (e.apply s)
  | swap h calls => exact congrArg (configure · calls) (apply_comm e h)
  | trans _ _ ih ih' => exact (ih e).trans (ih' e)

/-- **The last setting of a field holds.** After any settings of any endpoint, each of the URL, the
region and the wait is what the last setting of it says, a minute for the slow network, and what it was
when there is none. So settings that say the same last, whatever comes before, make the same endpoint,
which passes the same check and is displayed alike; and so do settings of different fields in any
order. -/
theorem last_setting_holds (e : Endpoint) (calls : List Setting) :
    (e.configure calls).url = (lastOf Setting.url? calls).getD e.url ∧
    (e.configure calls).region = (lastOf Setting.region? calls).getD e.region ∧
    (e.configure calls).socketTimeout = (lastOf Setting.wait? calls).or e.socketTimeout ∧
    ∀ others : List Setting,
      (lastOf Setting.url? calls = lastOf Setting.url? others ∧
          lastOf Setting.region? calls = lastOf Setting.region? others ∧
          lastOf Setting.wait? calls = lastOf Setting.wait? others) ∨
        Reordered calls others →
      e.configure calls = e.configure others ∧
        (e.configure calls).check = (e.configure others).check ∧
        (e.configure calls).display = (e.configure others).display := by
  refine ⟨congrArg url (configure_eq e calls), congrArg region (configure_eq e calls),
    congrArg socketTimeout (configure_eq e calls), fun others h => ?_⟩
  have heq : e.configure calls = e.configure others := by
    rcases h with ⟨hurl, hregion, hwait⟩ | h
    · rw [configure_eq, configure_eq, hurl, hregion, hwait]
    · exact h.configure_eq e
  exact ⟨heq, congrArg check heq, congrArg display heq⟩

/-- A wait that is set after the slow network stands, as if there had been no slow network. -/
theorem later_wait_stands :
    onThisMachine.configure [.slowNetwork, .region "eu-west-1", .socketTimeout ⟨3, 5⟩] =
      onThisMachine.configure [.socketTimeout ⟨3, 5⟩, .region "eu-west-1"] := by
  obtain ⟨-, -, -, hsame⟩ := last_setting_holds onThisMachine
    [.slowNetwork, .region "eu-west-1", .socketTimeout ⟨3, 5⟩]
  exact (hsame [.socketTimeout ⟨3, 5⟩, .region "eu-west-1"] (.inl ⟨rfl, rfl, rfl⟩)).1

end CloudRehearsal.Endpoint
