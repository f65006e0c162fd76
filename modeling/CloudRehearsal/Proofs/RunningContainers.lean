import CloudRehearsal.Proofs.Utf8Text
import CloudRehearsal.Proofs.Walks
import CloudRehearsal.Text.Basic
import Mathlib.Logic.Basic

/-!
Whether a container runs, as a runtime tells it. The runtime is asked for the running containers with a
part of a name, and any answer at all counts as a yes. So the question is answered rightly as long as no
other container's name contains the name (`Chore.isRunning_exact_iff`); a container with a longer name
is taken for the one that was asked about, and then the mock server is not started.
-/
namespace CloudRehearsal

open Text Chore
open Container (mockServer)

/-- A running container. -/
structure RunningContainer where
  name : String
  /-- What the runtime calls it. -/
  id : String
  shown : blank id = false

/-- The identifiers of containers, one in each line. -/
def RunningContainer.listing (cs : List RunningContainer) : String :=
  String.join (cs.map fun c => c.id ++ "\n")

/-- The runtime lists the running containers whose names contain what it is asked for. `running` gives
all of them. -/
structure ListsRunning {σ : Type} (m : Machine σ) (runtime : ContainerRuntime)
    (running : σ → List RunningContainer) : Prop where
  ps : ∀ s name, ∃ finished,
    (m.launch (told runtime ["ps", "-q", "-f", s!"name={name}"]) s).1 = .ok finished ∧
      finished.output = Utf8.bytes
        (RunningContainer.listing ((running s).filter fun c => contains c.name name))

namespace RunningContainer

variable {cs : List RunningContainer} {name : String}

theorem listing_nil : listing [] = "" := rfl

theorem blank_listing_iff : blank (listing cs) = true ↔ cs = [] := by
  cases cs with
  | nil => simp [listing_nil, blank_empty]
  | cons c cs =>
    refine iff_of_false ?_ (List.cons_ne_nil c cs)
    have hl : listing (c :: cs) = c.id ++ ("\n" ++ listing cs) := by
      simp [listing, String.append_assoc]
    rw [hl, Bool.not_eq_true, blank, String.toList_append, List.all_append, Bool.and_eq_false_iff]
    exact .inl c.shown

theorem filter_contains_eq_nil_iff :
    cs.filter (fun c => contains c.name name) = [] ↔
      ¬ ∃ c ∈ cs, name.toList <:+: c.name.toList := by
  simp [contains_iff]

end RunningContainer

namespace Chore

/-! ## Starting the mock server -/

section

variable {runtime : ContainerRuntime} {seconds : Nat} {result : Except ChoreError Bool}
  {ran : List Ran} {finished : Finished}

/-- The start is skipped exactly when the runtime writes something about the mock server. -/
theorem skipped_iff_of_startup (h : Startup runtime seconds result ran)
    (hps : ran.head? = some (Chore.listing runtime, .ok finished)) :
    (result = .ok false ↔ blank (Utf8.lenient finished.output) = false) ∧
      (told runtime mockServer.runArguments ∈ ran.map (·.1) ↔
        blank (Utf8.lenient finished.output) = true) := by
  have hne : told runtime mockServer.runArguments ≠ Chore.listing runtime := by
    simp [Container.runArguments]
  cases h with
  | unlisted e => cases hps
  | running hb =>
    cases hps
    simp [hb, hne]
  | refused hb he =>
    cases hps
    simp [hb]
  | begun healthy hb he =>
    cases hps
    cases healthy <;> simp [hb]

end

/-! ## What the runtime's answer says -/

section

variable {σ : Type} {m : Machine σ} {runtime : ContainerRuntime} {running : σ → List RunningContainer}
  (h : ListsRunning m runtime running) (w : ChoreWorld σ)
include h

/-- The runtime answers, and with nothing exactly when no name contains what it is asked for. -/
theorem blank_answered_iff (name : String) : ∃ finished,
    answered m (told runtime ["ps", "-q", "-f", s!"name={name}"]) w = .ok finished ∧
      (blank (Utf8.lenient finished.output) = true ↔
        ¬ ∃ c ∈ running w.machine, name.toList <:+: c.name.toList) := by
  obtain ⟨finished, hps, hout⟩ := h.ps w.machine name
  refine ⟨finished, hps, ?_⟩
  rw [hout, Utf8.lenient_bytes, RunningContainer.blank_listing_iff,
    RunningContainer.filter_contains_eq_nil_iff]

theorem run_isRunning (name : String) :
    ∃ found, ((isRunning runtime name).run m w).1 = .ok found ∧
      (found = true ↔ ∃ c ∈ running w.machine, name.toList <:+: c.name.toList) := by
  obtain ⟨finished, hps, hblank⟩ := blank_answered_iff h w name
  obtain ⟨w', c⟩ := comes_isRunning m runtime name w
  refine ⟨!blank (Utf8.lenient finished.output), ?_, ?_⟩
  · rw [c.run, hps]
    rfl
  · rw [Bool.not_eq_true', ← Bool.not_eq_true, hblank, not_not]

theorem run_startMockServer (silent : Bool) (seconds : Nat) :
    ∃ ran, ((startMockServer silent seconds runtime).run m w).2.launches = w.launches ++ ran ∧
      (((startMockServer silent seconds runtime).run m w).1 = .ok false ↔
        ∃ c ∈ running w.machine, mockServer.name.toList <:+: c.name.toList) ∧
      (told runtime mockServer.runArguments ∈ ran.map (·.1) ↔
        ¬ ∃ c ∈ running w.machine, mockServer.name.toList <:+: c.name.toList) := by
  obtain ⟨finished, hps, hblank⟩ := blank_answered_iff h w mockServer.name
  obtain ⟨result, ran, w', c, hs, hhead⟩ := comes_startup_answered m silent seconds runtime w
  obtain ⟨hskip, hstart⟩ := skipped_iff_of_startup hs (hps ▸ hhead)
  rw [← Bool.not_eq_true, hblank, not_not] at hskip
  rw [hblank] at hstart
  rw [c.run]
  exact ⟨ran, c.launches, hskip, hstart⟩

/-- **What is known of a container that is asked about.** The answer is yes exactly when the name of some
running container contains the name. So it is right exactly when a container of that very name runs, or
no running container's name contains it; and the mock server is not started exactly when the name of
some running container contains its own. -/
theorem isRunning_exact_iff :
    (∀ name, ∃ found, ((isRunning runtime name).run m w).1 = .ok found ∧
      (found = true ↔ ∃ c ∈ running w.machine, name.toList <:+: c.name.toList) ∧
      ((found = true ↔ ∃ c ∈ running w.machine, c.name = name) ↔
        (∃ c ∈ running w.machine, c.name = name) ∨
          ¬ ∃ c ∈ running w.machine, name.toList <:+: c.name.toList)) ∧
    ∀ silent seconds, ∃ ran,
      ((startMockServer silent seconds runtime).run m w).2.launches = w.launches ++ ran ∧
      (((startMockServer silent seconds runtime).run m w).1 = .ok false ↔
        ∃ c ∈ running w.machine, mockServer.name.toList <:+: c.name.toList) ∧
      (told runtime mockServer.runArguments ∈ ran.map (·.1) ↔
        ¬ ∃ c ∈ running w.machine, mockServer.name.toList <:+: c.name.toList) := by
  refine ⟨fun name => ?_, run_startMockServer h w⟩
  obtain ⟨found, hrun, hfound⟩ := run_isRunning h w name
  have himp : (∃ c ∈ running w.machine, c.name = name) →
      ∃ c ∈ running w.machine, name.toList <:+: c.name.toList := by
    rintro ⟨c, hc, rfl⟩
    exact ⟨c, hc, List.infix_refl _⟩
  refine ⟨found, hrun, hfound, ?_⟩
  rw [hfound]
  constructor
  · intro hright
    by_cases hexact : ∃ c ∈ running w.machine, c.name = name
    · exact .inl hexact
    · exact .inr fun hcontains => hexact (hright.1 hcontains)
  · rintro (hexact | hnone)
    · exact ⟨fun _ => hexact, himp⟩
    · exact ⟨fun hcontains => absurd hcontains hnone, himp⟩

end

/-! ## A machine with containers -/

/-- A runtime on a machine with some running containers. It lists them, and does nothing else. -/
def harbour (cs : List RunningContainer) : Machine Unit where
  launch l s :=
    match l.arguments with
    | ["ps", "-q", "-f", filter] =>
      let name := String.ofList (filter.toList.drop "name=".length)
      (.ok ⟨true, Utf8.bytes
        (RunningContainer.listing (cs.filter fun c => contains c.name name)), []⟩, s)
    | _ => (.ok ⟨true, [], []⟩, s)
  probe _ s := (⟨true, 0⟩, s)
  pause _ s := (0, s)

theorem harbour_listsRunning (cs : List RunningContainer) (runtime : ContainerRuntime) :
    ListsRunning (harbour cs) runtime fun _ => cs := by
  refine ⟨fun s name => ⟨_, rfl, ?_⟩⟩
  have hname : String.ofList (s!"name={name}".toList.drop "name=".length) = name := by
    rw [← String.toList_inj, show "name=".length = 5 by rfl]
    simp [toString]
  simp only [hname]

/-- The container of the mock server. -/
def ownContainer : RunningContainer := ⟨"localmock-moto", "3f2a9c41d0be", by decide⟩

/-- Another container, named after it. -/
def oldContainer : RunningContainer := ⟨"localmock-moto-old", "9b1e77a0c4d2", by decide⟩

/-- Beside its namesake the mock server is found, and is not started again. -/
theorem own_container_found :
    ListsRunning (harbour [oldContainer, ownContainer]) .docker
        (fun _ => [oldContainer, ownContainer]) ∧
      ((isRunning .docker "localmock-moto").run (harbour [oldContainer, ownContainer])
        (.start ())).1 = .ok true ∧
      ((startMockServer true 30 .docker).run (harbour [oldContainer, ownContainer])
        (.start ())).1 = .ok false := by
  have hlists := harbour_listsRunning [oldContainer, ownContainer] .docker
  obtain ⟨hfound, hstarted⟩ := isRunning_exact_iff hlists (.start ())
  obtain ⟨found, hrun, hcontains, -⟩ := hfound "localmock-moto"
  obtain ⟨ran, -, hskipped, -⟩ := hstarted true 30
  have hown : ∃ c ∈ [oldContainer, ownContainer],
      "localmock-moto".toList <:+: c.name.toList := by decide
  refine ⟨hlists, ?_, hskipped.2 hown⟩
  rw [hrun, hcontains.2 hown]

/-- Its namesake alone is taken for it: it does not run, and is not started. -/
theorem namesake_taken_for_it :
    (∀ c ∈ [oldContainer], c.name ≠ "localmock-moto") ∧
      ((isRunning .docker "localmock-moto").run (harbour [oldContainer]) (.start ())).1 = .ok true ∧
      ((startMockServer true 30 .docker).run (harbour [oldContainer]) (.start ())).1 = .ok false := by
  have hlists := harbour_listsRunning [oldContainer] .docker
  have hold : ∃ c ∈ [oldContainer], "localmock-moto".toList <:+: c.name.toList := by decide
  obtain ⟨found, hrun, hcontains⟩ := run_isRunning hlists (.start ()) "localmock-moto"
  obtain ⟨ran, -, hskipped, -⟩ := run_startMockServer hlists (.start ()) true 30
  refine ⟨by decide, ?_, hskipped.2 hold⟩
  rw [hrun, hcontains.2 hold]

end Chore

end CloudRehearsal
