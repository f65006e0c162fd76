import CloudRehearsal.Proofs.ChoreTwins
import CloudRehearsal.Run

/-!
Flags about what is printed change nothing else. Two command lines that differ in such flags ask for the
same (`Invocation.eq_of_askAlike`, `ErrandInvocation.errand_eq_of_askAlike`). With the same server, or on
the same machine, they then send the same requests or run the same programs, and end alike
(`presentation_changes_nothing`).
-/
namespace CloudRehearsal

open CommandLine Text

variable {σ : Type}

namespace Invocation

/-! ## Command lines that ask for the same -/

/-- The setting is about what is printed. -/
def Setting.presents : Setting → Bool
  | quiet | format _ => true
  | _ => false

/-- Both command lines are understood, and they differ in settings about what is printed alone. -/
def AskAlike (env : Environment) (args args' : List RawText) : Prop :=
  ∃ settings settings', (program env).read args = .ok settings ∧
    (program env).read args' = .ok settings' ∧
    settings.filter (!·.presents) = settings'.filter (!·.presents)

section

variable {env : Environment} {args args' : List RawText} {settings settings' : List Setting}
  {i i' : Invocation}

theorem findSome?_filter_presents {β : Type} {p : Setting → Option β}
    (hp : ∀ s : Setting, s.presents = true → p s = none) (settings : List Setting) :
    (settings.filter (!·.presents)).findSome? p = settings.findSome? p := by
  rw [← List.head?_filterMap, ← List.head?_filterMap, List.filterMap_filter]
  refine congrArg _ (List.filterMap_congr fun s _ => ?_)
  cases hs : s.presents with
  | false => rfl
  | true => rw [hp s hs]; rfl

theorem findSome?_congr_presents {β : Type} {p : Setting → Option β}
    (hp : ∀ s : Setting, s.presents = true → p s = none)
    (h : settings.filter (!·.presents) = settings'.filter (!·.presents)) :
    settings.findSome? p = settings'.findSome? p := by
  rw [← findSome?_filter_presents hp, h, findSome?_filter_presents hp]

/-- They ask for the same, but for the format and quiet. -/
theorem eq_of_askAlike (h : AskAlike env args args') (hi : read env args = .ok i)
    (hi' : read env args' = .ok i') : i' = { i with format := i'.format, quiet := i'.quiet } := by
  obtain ⟨settings, settings', hs, hs', hsame⟩ := h
  have ho := Level.ofSettings?_of_readAs hs hi
  have ho' := Level.ofSettings?_of_readAs hs' hi'
  have unsaid : ∀ s : Setting, s.presents = true → s.endpointUrl? = none ∧ s.region? = none ∧
      s.socketTimeout? = none ∧ s.command? = none := by
    intro s hs
    cases s with
    | quiet | format => exact ⟨rfl, rfl, rfl, rfl⟩
    | _ => cases hs
  unfold ofSettings? at ho ho'
  rw [findSome?_congr_presents (fun s hs => (unsaid s hs).1) hsame,
    findSome?_congr_presents (fun s hs => (unsaid s hs).2.1) hsame,
    findSome?_congr_presents (fun s hs => (unsaid s hs).2.2.1) hsame,
    findSome?_congr_presents (fun s hs => (unsaid s hs).2.2.2) hsame] at ho
  cases hc : settings'.findSome? (·.command?) with
  | none =>
    rw [hc] at ho
    cases ho
  | some c =>
    rw [hc] at ho ho'
    obtain rfl := Option.some.inj ho
    obtain rfl := Option.some.inj ho'
    rfl

end

/-- The format and quiet are left out of account until the session is over. -/
theorem run_presented (i : Invocation) (format : Listing.Format) (quiet : Bool) (env : Environment)
    (server : Server σ) (ids : Nat → Uuid) (service : σ) :
    let i' := { i with format := format, quiet := quiet }
    (i'.run env server ids service).2 = (i.run env server ids service).2 ∧
      (i'.run env server ids service).1.status = (i.run env server ids service).1.status ∧
      (format = i.format →
        (i'.run env server ids service).1.output = (i.run env server ids service).1.output) := by
  refine ⟨rfl, rfl, ?_⟩
  rintro rfl
  rfl

end Invocation

namespace ErrandInvocation

/-- Both command lines are understood, and they differ at most in the wish for silence. -/
def AskAlike (args args' : List RawText) : Prop :=
  ∃ settings settings', program.read args = .ok settings ∧ program.read args' = .ok settings' ∧
    settings.filter (· != .silent) = settings'.filter (· != .silent)

section

variable {args args' : List RawText} {settings settings' : List Setting} {i i' : ErrandInvocation}

theorem contains_congr_silent (h : settings.filter (· != .silent) = settings'.filter (· != .silent))
    {s : Setting} (hs : s ≠ .silent) : settings.contains s = settings'.contains s := by
  have hmem : ∀ l : List Setting, (l.filter (· != .silent)).contains s = l.contains s := by
    intro l
    simp [List.contains_eq_mem, hs]
  rw [← hmem, h, hmem]

theorem findSome?_congr_silent (h : settings.filter (· != .silent) = settings'.filter (· != .silent)) :
    settings.findSome? (·.healthTimeout?) = settings'.findSome? (·.healthTimeout?) := by
  have hfind : ∀ l : List Setting, (l.filter (· != .silent)).findSome? (·.healthTimeout?) =
      l.findSome? (·.healthTimeout?) := by
    intro l
    rw [← List.head?_filterMap, ← List.head?_filterMap, List.filterMap_filter]
    refine congrArg _ (List.filterMap_congr fun s _ => ?_)
    cases s <;> rfl
  rw [← hfind, h, hfind]

/-- What is asked for does not depend on the wish for silence. -/
theorem errand_congr_silent (h : settings.filter (· != .silent) = settings'.filter (· != .silent)) :
    (ofSettings? settings).map (·.errand) = (ofSettings? settings').map (·.errand) := by
  have hcontains {s : Setting} (hs : s ≠ .silent) : settings.contains s = settings'.contains s :=
    contains_congr_silent h hs
  unfold ofSettings?
  simp only [apply_ite (Option.map _), Option.map_some, Option.map_none,
    findSome?_congr_silent h, hcontains (s := .startServer) nofun, hcontains (s := .stopServer) nofun,
    hcontains (s := .integration) nofun, hcontains (s := .noDocker) nofun,
    hcontains (s := .keepContainers) nofun]

theorem errand_eq_of_askAlike (h : AskAlike args args') (hi : read args = .ok i)
    (hi' : read args' = .ok i') : i'.errand = i.errand := by
  obtain ⟨settings, settings', hs, hs', hsame⟩ := h
  have herrand := errand_congr_silent hsame
  rw [Level.ofSettings?_of_readAs hs hi, Level.ofSettings?_of_readAs hs' hi'] at herrand
  exact (Option.some.inj herrand).symm

end

end ErrandInvocation

/-- **Presentation flags never change behaviour.** Two runs of the program with one server, from command
lines that differ in quiet and format alone, send the same requests in the same order and end with the
same status, and when the format is the same they write the same results. Two runs of a chore on one
machine, from command lines that differ in silence alone, run the same programs in the same order and come
to the same result. -/
theorem presentation_changes_nothing :
    (∀ (σ : Type) (env : Environment) (args args' : List RawText) (i i' : Invocation),
      Invocation.read env args = .ok i → Invocation.read env args' = .ok i' →
      Invocation.AskAlike env args args' →
      ∀ (server : Server σ) (ids : Nat → Uuid) (service : σ),
        (i'.run env server ids service).2.requests = (i.run env server ids service).2.requests ∧
        (i'.run env server ids service).1.status = (i.run env server ids service).1.status ∧
        (i'.format = i.format →
          (i'.run env server ids service).1.output = (i.run env server ids service).1.output)) ∧
    ∀ (σ : Type) (args args' : List RawText) (i i' : ErrandInvocation),
      ErrandInvocation.read args = .ok i → ErrandInvocation.read args' = .ok i' →
      ErrandInvocation.AskAlike args args' →
      ∀ (m : Machine σ) (s : σ),
        (i'.chore.run m (.start s)).2.launches.map Prod.fst =
          (i.chore.run m (.start s)).2.launches.map Prod.fst ∧
        (i'.chore.run m (.start s)).1 = (i.chore.run m (.start s)).1 := by
  refine ⟨fun σ env args args' i i' hi hi' h server ids service => ?_,
    fun σ args args' i i' hi hi' h m s => ?_⟩
  · obtain ⟨hworld, hstatus, houtput⟩ := i.run_presented i'.format i'.quiet env server ids service
    rw [Invocation.eq_of_askAlike h hi hi']
    exact ⟨congrArg World.requests hworld, hstatus, houtput⟩
  · obtain ⟨silent, errand⟩ := i
    obtain ⟨silent', errand'⟩ := i'
    obtain rfl : errand' = errand := ErrandInvocation.errand_eq_of_askAlike h hi hi'
    obtain ⟨hresult, hafter⟩ :=
      ErrandInvocation.twin_chore (.refl m) silent' silent errand' (.start s) (.start s) (.refl _)
    exact ⟨hafter.launches, hresult⟩

/-- A check that is to be quiet, and tests that are to be silent. -/
theorem quiet_check_silent_tests :
    (∃ i i' : Invocation,
      Invocation.read ⟨none, none, none⟩ (["check"].map .ofString) = .ok i ∧
      Invocation.read ⟨none, none, none⟩ (["--quiet", "check"].map .ofString) = .ok i' ∧
      Invocation.AskAlike ⟨none, none, none⟩ (["check"].map .ofString)
        (["--quiet", "check"].map .ofString) ∧
      (i'.run ⟨none, none, none⟩ (Server.unreachable Unit) (fun _ => 0) ()).1.output =
        (i.run ⟨none, none, none⟩ (Server.unreachable Unit) (fun _ => 0) ()).1.output) ∧
    ∃ i i' : ErrandInvocation,
      ErrandInvocation.read (["integration"].map .ofString) = .ok i ∧
      ErrandInvocation.read (["integration", "--silent"].map .ofString) = .ok i' ∧
      ErrandInvocation.AskAlike (["integration"].map .ofString)
        (["integration", "--silent"].map .ofString) ∧
      (i'.chore.run (.scripted (fun _ => ⟨true, 0⟩) fun _ => 0) (.start 0)).1 =
        (i.chore.run (.scripted (fun _ => ⟨true, 0⟩) fun _ => 0) (.start 0)).1 := by
  have hcheck : Invocation.AskAlike ⟨none, none, none⟩ (["check"].map .ofString)
      (["--quiet", "check"].map .ofString) :=
    ⟨[.command .check], [.command .check, .quiet], rfl, rfl, rfl⟩
  have htests : ErrandInvocation.AskAlike (["integration"].map .ofString)
      (["integration", "--silent"].map .ofString) :=
    ⟨[.integration], [.integration, .silent], rfl, rfl, rfl⟩
  obtain ⟨hruns, hchores⟩ := presentation_changes_nothing
  obtain ⟨-, -, houtput⟩ :=
    hruns Unit ⟨none, none, none⟩ _ _ _ _ rfl rfl hcheck (Server.unreachable Unit) (fun _ => 0) ()
  obtain ⟨-, hresult⟩ := hchores Nat _ _ _ _ rfl rfl htests (.scripted (fun _ => ⟨true, 0⟩) fun _ => 0) 0
  exact ⟨⟨_, _, rfl, rfl, hcheck, houtput rfl⟩, _, _, rfl, rfl, htests, hresult⟩

end CloudRehearsal
