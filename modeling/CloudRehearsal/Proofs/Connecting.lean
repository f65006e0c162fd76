import CloudRehearsal.Client.Clients
import CloudRehearsal.Proofs.Calls

/-!
Setting up the clients of an endpoint. `Endpoint.Faulty` says what can be wrong with an endpoint, and
which fault counts when there are several; an endpoint fails its check exactly with that fault
(`Endpoint.check_eq_error_iff`). Setting up sends nothing (`Clients.connect_silent`).
-/
namespace CloudRehearsal

open Text

namespace Endpoint

variable {e : Endpoint} {fault : ConfigError}

/-- The endpoint is at a URL of another scheme than the two that clients speak. -/
def OffTheWeb (e : Endpoint) : Prop :=
  ∃ url, Url.parse e.url = .ok url ∧ url.scheme ≠ "http" ∧ url.scheme ≠ "https"

/-- The region is white space throughout, or nothing. -/
def Regionless (e : Endpoint) : Prop := ∀ c ∈ e.region.toList, isBlank c = true

/-- The fault of an endpoint, the first in this order. The text that was given for a URL is part of
what is reported. -/
inductive Faulty (e : Endpoint) : ConfigError → Prop where
  | unreadable {why : Url.Fault} (h : Url.parse e.url = .error why) :
      Faulty e (.invalidEndpoint e.url why.reason)
  | scheme (h : e.OffTheWeb) : Faulty e (.invalidEndpoint e.url "scheme must be http or https")
  | region {url : Url} (h : Url.parse e.url = .ok url) (hs : ¬ e.OffTheWeb) (hr : e.Regionless) :
      Faulty e .emptyRegion

theorem regionless_iff : e.Regionless ↔ blank e.region = true := blank_eq_true_iff.symm

theorem offTheWeb_iff {url : Url} (h : Url.parse e.url = .ok url) :
    e.OffTheWeb ↔ url.scheme ≠ "http" ∧ url.scheme ≠ "https" := by
  refine ⟨?_, fun hs => ⟨url, h, hs⟩⟩
  rintro ⟨url', h', hs⟩
  cases h.symm.trans h'
  exact hs

theorem faulty_of_check (h : e.check = .error fault) : e.Faulty fault := by
  unfold check at h
  split at h
  next why hp =>
    cases h
    exact .unreadable hp
  next url hp =>
    split at h
    next hs =>
      cases h
      exact .scheme ((offTheWeb_iff hp).2 hs)
    next hs =>
      split at h
      next hr =>
        cases h
        exact .region hp (mt (offTheWeb_iff hp).1 hs) (regionless_iff.2 hr)
      next => cases h

theorem check_of_faulty (h : e.Faulty fault) : e.check = .error fault := by
  unfold check
  cases h with
  | unreadable hp => rw [hp]
  | scheme h =>
    obtain ⟨url, hp, hs⟩ := h
    rw [hp]
    exact if_pos hs
  | region hp hs hr =>
    rw [hp]
    exact (if_neg (mt (offTheWeb_iff hp).2 hs)).trans (if_pos (regionless_iff.1 hr))

/-- **An endpoint fails its check with its fault.** -/
theorem check_eq_error_iff : e.check = .error fault ↔ e.Faulty fault :=
  ⟨faulty_of_check, check_of_faulty⟩

/-- An endpoint is accepted exactly when its URL is one of the web and its region is not blank. -/
theorem check_eq_ok_iff : e.check = .ok () ↔ ∃ url, Url.parse e.url = .ok url ∧
    (url.scheme = "http" ∨ url.scheme = "https") ∧ ¬ e.Regionless := by
  rw [regionless_iff]
  unfold check
  cases hp : Url.parse e.url with
  | error why => simp
  | ok url =>
    by_cases hs : url.scheme ≠ "http" ∧ url.scheme ≠ "https"
    · simp [hs]
    · have hweb : url.scheme = "http" ∨ url.scheme = "https" :=
        Decidable.or_iff_not_not_and_not.2 hs
      cases blank e.region <;> simp [hs, hweb]

/-- For one endpoint the check can be evaluated. -/
theorem accepted_of_isOk (h : e.check.isOk = true) : e.check = .ok () := by
  cases hc : e.check with
  | ok u => rfl
  | error fault =>
    rw [hc] at h
    cases h

/-- Whatever is wrong with an endpoint, something is reported. -/
theorem exists_faulty_iff : (∃ fault, e.Faulty fault) ↔
    (∃ why, Url.parse e.url = .error why) ∨ e.OffTheWeb ∨ e.Regionless := by
  constructor
  · rintro ⟨_, h⟩
    cases h with
    | unreadable hp => exact .inl ⟨_, hp⟩
    | scheme h => exact .inr (.inl h)
    | region _ _ hr => exact .inr (.inr hr)
  · intro h
    cases hp : Url.parse e.url with
    | error why => exact ⟨_, .unreadable hp⟩
    | ok url =>
      by_cases hs : e.OffTheWeb
      · exact ⟨_, .scheme hs⟩
      · have hr : e.Regionless := by
          rcases h with ⟨why, h⟩ | h | h
          · cases h.symm.trans hp
          · exact absurd h hs
          · exact h
        exact ⟨_, .region hp hs hr⟩

end Endpoint

/-! ## Setting up -/

namespace Clients

theorem ofEndpoint_ok {e : Endpoint} (h : e.check = .ok ()) : ofEndpoint e = .ok ⟨e, h⟩ := by
  unfold ofEndpoint
  split
  · rfl
  next h' => exact nomatch h.symm.trans h'

theorem ofEndpoint_error {e : Endpoint} {fault : ConfigError} (h : e.check = .error fault) :
    ofEndpoint e = .error (.config fault) := by
  unfold ofEndpoint
  split
  next h' => exact nomatch h.symm.trans h'
  next h' =>
    rw [h] at h'
    cases h'
    rfl

/-- There are clients for an endpoint without a fault, and they are its own. -/
theorem ofEndpoint_eq_ok_iff {e : Endpoint} {c : Clients} : ofEndpoint e = .ok c ↔ c.endpoint = e := by
  constructor
  · intro h
    cases hc : e.check with
    | ok u =>
      cases (ofEndpoint_ok hc).symm.trans h
      rfl
    | error fault => cases (ofEndpoint_error hc).symm.trans h
  · rintro rfl
    exact ofEndpoint_ok c.accepted

theorem ofEndpoint_eq_error_iff {e : Endpoint} {err : ClientError} :
    ofEndpoint e = .error err ↔ ∃ fault, err = .config fault ∧ e.Faulty fault := by
  constructor
  · intro h
    cases hc : e.check with
    | ok u => cases (ofEndpoint_ok hc).symm.trans h
    | error fault =>
      cases (ofEndpoint_error hc).symm.trans h
      exact ⟨fault, rfl, Endpoint.check_eq_error_iff.1 hc⟩
  · rintro ⟨fault, rfl, h⟩
    exact ofEndpoint_error (Endpoint.check_eq_error_iff.2 h)

theorem connect_silent (e : Endpoint) : (connect e).Silent (ofEndpoint e) := by
  have h := (Call.Silent.mk' (ofEndpoint e)).bind fun clients =>
    (Call.Silent.note ⟨.debug, "localmock::factory", "Client factory ready",
      [.plain "target" e.display]⟩).bind fun _ => .pure clients
  have hr : (ofEndpoint e >>= fun clients => (.ok () : Except ClientError Unit) >>= fun _ =>
      .ok clients) = ofEndpoint e := by
    cases ofEndpoint e <;> rfl
  rwa [hr] at h

end Clients

end CloudRehearsal
