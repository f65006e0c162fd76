import CloudRehearsal.Proofs.Connecting
import CloudRehearsal.Proofs.Fixtures

/-!
From the endpoint to the requests: the clients go by the endpoint as it is, or there are none and the
fault is reported. The region is looked at twice, once for white space and once for the default region,
and comes out of both unchanged: a bucket is created where the endpoint says
(`Clients.configuration_reaches_requests`).
-/
namespace CloudRehearsal

variable {σ : Type}

/-! ## Where buckets are created -/

namespace Buckets

/-- The region in which a service creates a bucket: the default one unless it is told another. -/
def placeOf (constraint : Option String) : String := constraint.getD "us-east-1"

variable {region r : String}

theorem locationConstraint_eq_some_iff :
    locationConstraint region = some r ↔ region ≠ "us-east-1" ∧ r = region := by
  unfold locationConstraint Endpoint.defaultRegion
  by_cases h : region = "us-east-1"
  · simp [h]
  · simp [h, eq_comm]

theorem placeOf_locationConstraint (region : String) :
    placeOf (locationConstraint region) = region := by
  unfold placeOf locationConstraint Endpoint.defaultRegion
  by_cases h : region = "us-east-1"
  · rw [if_pos h, h]
    rfl
  · rw [if_neg h]
    rfl

/-- A bucket with a name is asked for once, and one without is not. -/
theorem requests_create (b : Buckets) (bucket : String) (server : Server σ) (ids : Nat → Uuid)
    (w : World σ) :
    (Session.attempt (b.create bucket) server ids w).2.requests =
      w.requests ++
        if bucket = "" then [] else [.createBucket bucket (locationConstraint b.region)] := by
  by_cases h : bucket = ""
  · rw [if_pos h, List.append_nil]
    exact (Method.createBucket b bucket).requests_of_refused h server ids w
  · rw [if_neg h]
    exact (Method.createBucket b bucket).requests_of_not_refused h server ids w

end Buckets

/-! ## From the endpoint to the requests -/

/-- **The configuration reaches the requests unchanged.** For any endpoint: setting up its clients sends
nothing; it fails exactly when the URL cannot be read, or is not of the web, or the region is blank, and
reports the first of these, with the URL as it was given. Otherwise the clients go by the endpoint's own
URL, region and wait and send nothing twice; and on any server they create a bucket by one request, which
names the endpoint's region exactly when it is not the default one. In either case that is where the
bucket comes to be. -/
theorem Clients.configuration_reaches_requests (e : Endpoint) (server : Server σ) (ids : Nat → Uuid)
    (w : World σ) :
    ∃ result w', Session.attempt (Clients.connect e) server ids w = (result, w') ∧
      w'.requests = w.requests ∧
      ((∃ err, result = .error err) ↔
        (∃ why, Url.parse e.url = .error why) ∨ e.OffTheWeb ∨ e.Regionless) ∧
      (∀ err, result = .error err ↔ ∃ fault, err = .config fault ∧ e.Faulty fault) ∧
      ∀ c, result = .ok c →
        c.settings = ⟨e.url, e.region, 1, e.socketTimeout⟩ ∧
        ∀ {τ : Type} (server : Server τ) (ids : Nat → Uuid) (w : World τ) (bucket : String),
          ∃ constraint,
            (Session.attempt (c.buckets.create bucket) server ids w).2.requests =
              w.requests ++ (if bucket = "" then [] else [.createBucket bucket constraint]) ∧
            (∀ r, constraint = some r ↔ e.region ≠ "us-east-1" ∧ r = e.region) ∧
            Buckets.placeOf constraint = e.region := by
  obtain ⟨w', he, n⟩ := (Clients.connect_silent e).run server ids w
  refine ⟨_, w', he, n.requests, ?_, fun err => Clients.ofEndpoint_eq_error_iff, fun c hc => ?_⟩
  · rw [← Endpoint.exists_faulty_iff]
    constructor
    · rintro ⟨err, h⟩
      obtain ⟨fault, -, hf⟩ := Clients.ofEndpoint_eq_error_iff.1 h
      exact ⟨fault, hf⟩
    · rintro ⟨fault, hf⟩
      exact ⟨.config fault, Clients.ofEndpoint_eq_error_iff.2 ⟨fault, rfl, hf⟩⟩
  · obtain rfl := Clients.ofEndpoint_eq_ok_iff.1 hc
    refine ⟨rfl, fun server ids w bucket => ?_⟩
    exact ⟨_, c.buckets.requests_create bucket server ids w,
      fun r => Buckets.locationConstraint_eq_some_iff, Buckets.placeOf_locationConstraint _⟩

end CloudRehearsal
