import CloudRehearsal.Proofs.ChoreTwins
import CloudRehearsal.Proofs.OwnContainer

/-!
The acceptance tests report the first failure and nothing else (`integration_fails_first`). They are a
walk, and what a step has come to decides whether it has failed (`Step.failure?`): with the first failure
the walk ends, and the failure is the result (`Reported`).

Whether what is left behind can be stopped and removed makes no difference, as the chore is its own twin on
a machine that gives other answers to these commands.
-/
namespace CloudRehearsal.Chore

open Text
open Container (mockServer)

variable {σ α β : Type} {seconds : Nat} {o : IntegrationOptions}

/-! ## Failures -/

/-- Why the step has failed. Whether a container can be stopped and removed does not count. -/
def Step.failure? (seconds : Nat) : Step → Option ChoreError
  | detect none _ => some (.noRuntime "Neither docker nor podman found in PATH")
  | detect (some _) _ => none
  | list _ (.error e) => some (.os e)
  | list _ (.ok _) => none
  | start _ _ _ (.error e) => some (.os e)
  | start _ _ _ (.ok finished) =>
    if finished.success then none
    else some (.container
      s!"Failed to start container '{mockServer.name}': {Utf8.lenient finished.errors}")
  | wait healthy => if healthy then none else some (.unhealthy mockServer.name seconds)
  | test (.error e) => some (.os e)
  | test (.ok finished) =>
    if finished.success then none else some (.tests "The mock-server test suite failed")

/-- The result reports the first failure among the steps, and no step has been taken after a failure. -/
structure Reported (seconds : Nat) (steps : List Step) (result : Except ChoreError α) : Prop where
  first : ∀ e, steps.findSome? (·.failure? seconds) = some e ↔ result = .error e
  last : steps.Pairwise fun earlier _ => earlier.failure? seconds = none

namespace Reported

variable {steps later : List Step} {result : Except ChoreError α}

theorem single {step : Step} (h : ∀ e, step.failure? seconds = some e ↔ result = .error e) :
    Reported seconds [step] result where
  first e := by
    rw [← h e]
    cases hf : step.failure? seconds <;> simp [hf]
  last := List.pairwise_singleton _ _

theorem congr {result' : Except ChoreError β} (h : Reported seconds steps result)
    (hr : ∀ e, result = .error e ↔ result' = .error e) : Reported seconds steps result' where
  first e := (h.first e).trans (hr e)
  last := h.last

theorem findSome?_eq_none {a : α} (h : Reported seconds steps (.ok a)) :
    steps.findSome? (·.failure? seconds) = none :=
  Option.eq_none_iff_forall_ne_some.2 fun e he => nomatch (h.first e).1 he

/-- After steps without a failure the walk goes on. -/
theorem append {a : β} (h : Reported seconds steps (.ok a)) (h' : Reported seconds later result) :
    Reported seconds (steps ++ later) result where
  first e := by
    rw [List.findSome?_append, h.findSome?_eq_none, Option.none_or]
    exact h'.first e
  last := by
    refine List.pairwise_append.2 ⟨h.last, h'.last, fun step hstep _ _ => ?_⟩
    exact List.findSome?_eq_none_iff.1 h.findSome?_eq_none step hstep

theorem eq {result : Except ChoreError Unit} (h : Reported seconds steps result) :
    result = (steps.findSome? (·.failure? seconds)).elim (.ok ()) .error := by
  cases result with
  | ok =>
    rw [h.findSome?_eq_none]
    rfl
  | error e =>
    rw [(h.first e).2 rfl]
    rfl

end Reported

/-! ## Single steps -/

theorem reported_detect (found : Option ContainerRuntime) (asked : List Ran) :
    Reported seconds [.detect found asked] (detection found) := by
  refine .single fun e => ?_
  cases found <;> simp [Step.failure?, detection]

theorem reported_list (runtime : ContainerRuntime) (answer : Except OsError Finished) :
    Reported seconds [.list runtime answer] (listed answer) := by
  refine .single fun e => ?_
  cases answer <;> simp [Step.failure?]

theorem reported_start (runtime : ContainerRuntime) (stopped removed : Except OsError Finished)
    {answer : Except OsError Finished} {result : Except ChoreError Unit}
    (hb : begun mockServer answer = result) :
    Reported seconds [.start runtime stopped removed answer] result := by
  refine .single fun e => ?_
  rw [← hb]
  cases answer with
  | error e => simp [Step.failure?]
  | ok finished => cases hs : finished.success <;> simp [Step.failure?, hs]

theorem reported_wait (healthy : Bool) : Reported seconds [.wait healthy]
    (if healthy then .ok true else .error (.unhealthy mockServer.name seconds)) := by
  refine .single fun e => ?_
  cases healthy <;> simp [Step.failure?]

theorem reported_test (answer : Except OsError Finished) :
    Reported seconds [.test answer] (concluded answer) := by
  refine .single fun e => ?_
  cases answer with
  | error e => simp [Step.failure?]
  | ok finished => cases hs : finished.success <;> simp [Step.failure?, hs]

/-! ## The steps of the chore -/

namespace StartSteps

variable {runtime : ContainerRuntime} {steps : List Step} {result : Except ChoreError Bool}

theorem reported (h : StartSteps runtime seconds steps result) : Reported seconds steps result := by
  cases h with
  | unlisted e => exact reported_list runtime (.error e)
  | @running finished h => exact (reported_list runtime (.ok finished)).congr (by simp)
  | @refused finished stopped removed answer e h hb =>
    have started : Reported seconds [.start runtime stopped removed answer] (.error e) :=
      reported_start runtime stopped removed hb
    exact (reported_list runtime (.ok finished)).append (started.congr (by simp))
  | @begun finished stopped removed answer healthy h hb =>
    have started : Reported seconds [.start runtime stopped removed answer] (.ok ()) :=
      reported_start runtime stopped removed hb
    exact (reported_list runtime (.ok finished)).append (started.append (reported_wait healthy))

theorem test_notMem (h : StartSteps runtime seconds steps result) (answer : Except OsError Finished) :
    .test answer ∉ steps := by
  cases h <;> simp

end StartSteps

/-- A server is there. No container is to be touched, or a runtime has been found, and it lists the mock
server, or has started it and the server has become healthy. -/
def Served (o : IntegrationOptions) (steps : List Step) : Prop :=
  o.noDocker = true ∨ ∃ runtime asked, .detect (some runtime) asked ∈ steps ∧
    ((∃ finished, .list runtime (.ok finished) ∈ steps ∧ blank (Utf8.lenient finished.output) = false) ∨
      (∃ stopped removed finished, .start runtime stopped removed (.ok finished) ∈ steps ∧
        finished.success = true) ∧ .wait true ∈ steps)

/-- The tests could be run, and they pass. -/
def Passed (steps : List Step) : Prop :=
  ∃ finished, .test (.ok finished) ∈ steps ∧ finished.success = true

theorem concluded_eq_ok_iff {answer : Except OsError Finished} :
    concluded answer = .ok () ↔ ∃ finished, answer = .ok finished ∧ finished.success = true := by
  cases answer with
  | error e => simp
  | ok finished => cases hs : finished.success <;> simp [hs]

theorem passed_append_iff {steps : List Step} (h : ∀ answer, .test answer ∉ steps)
    (answer : Except OsError Finished) :
    Passed (steps ++ [.test answer]) ↔ concluded answer = .ok () := by
  simp [Passed, h, concluded_eq_ok_iff, @eq_comm _ (Except.ok _) answer]

theorem StartSteps.served {runtime : ContainerRuntime} {asked : List Ran} {steps later : List Step}
    {ours : Bool} (h : StartSteps runtime seconds steps (.ok ours)) :
    Served o (.detect (some runtime) asked :: (steps ++ later)) := by
  refine .inr ⟨runtime, asked, List.mem_cons_self, ?_⟩
  generalize hr : (Except.ok ours : Except ChoreError Bool) = result at h
  cases h with
  | unlisted | refused => cases hr
  | running h => exact .inl ⟨_, by simp, h⟩
  | @begun _ stopped removed _ healthy h hb =>
    obtain ⟨finished, rfl, hs⟩ := begun_eq_ok_iff.1 hb
    cases healthy with
    | true => exact .inr ⟨⟨stopped, removed, finished, by simp, hs⟩, by simp⟩
    | false => cases hr

namespace Course

variable {steps : List Step} {after : List Ran} {result : Except ChoreError Unit}

theorem reported (h : Course o steps after result) : Reported o.healthTimeout steps result := by
  cases h with
  | spared h answer => exact reported_test answer
  | @lacking asked h hd => exact (reported_detect none asked).congr (by simp [detection])
  | @failing runtime asked _ _ h hd hs =>
    exact (reported_detect (some runtime) asked).append (hs.reported.congr (by simp))
  | @testing runtime asked _ _ _ h hd hs answer hc =>
    exact (reported_detect (some runtime) asked).append (hs.reported.append (reported_test answer))

theorem ok_iff (h : Course o steps after result) :
    result = .ok () ↔ Served o steps ∧ Passed steps := by
  cases h with
  | spared h answer =>
    have hnone : ∀ answer, .test answer ∉ ([] : List Step) := by simp
    rw [and_iff_right (.inl h)]
    exact (passed_append_iff hnone answer).symm
  | lacking h hd => simp [Passed]
  | failing h hd hs => simp [Passed, hs.test_notMem]
  | testing h hd hs answer hc =>
    rw [and_iff_right hs.served, ← List.cons_append]
    exact (passed_append_iff (by simp [hs.test_notMem]) answer).symm

theorem test_last (h : Course o steps after result) {answer : Except OsError Finished}
    (ht : .test answer ∈ steps) : ∃ before, steps = before ++ [.test answer] := by
  cases h with
  | spared h answer' =>
    obtain rfl : answer = answer' := by simpa using ht
    exact ⟨[], rfl⟩
  | lacking => simp at ht
  | failing h hd hs => simp [hs.test_notMem] at ht
  | @testing runtime asked _ steps _ h hd hs answer' hc =>
    obtain rfl : answer = answer' := by simpa [hs.test_notMem] using ht
    exact ⟨.detect (some runtime) asked :: steps, rfl⟩

/-- What comes after the steps is to stop and to remove. -/
theorem clears (h : Course o steps after result) : ∀ p ∈ after, p.1.clears = true := by
  cases h with
  | spared | lacking | failing => simp
  | testing h hd hs answer hc =>
    rcases hc.cases with rfl | ⟨stopped, removed, rfl⟩ <;> simp [Launch.clears]

end Course

/-! ## The whole chore -/

/-- A step that runs the tests is the step of the tests. -/
theorem Step.Taken.test {m : Machine σ} {w w' : ChoreWorld σ} {step : Step}
    {answer : Except OsError Finished} (h : step.Taken m seconds w w')
    (hran : (testCommand mockServer.url, answer) ∈ step.ran) : step = .test answer := by
  -- otherwise it is a runtime that is told something
  have hne (runtime : ContainerRuntime) (arguments : List String) :
      testCommand mockServer.url ≠ told runtime arguments :=
    fun he => testCommand_ne _ runtime (congrArg Launch.command he)
  cases step with
  | detect found asked =>
    obtain ⟨runtime, hv⟩ := h.2.versions _ hran
    exact absurd hv (hne runtime _)
  | list | start | wait => simp [Step.ran, hne] at hran
  | test answer' =>
    obtain rfl : answer = answer' := by simpa [Step.ran] using hran
    rfl

theorem Walk.test_mem {m : Machine σ} {w w' : ChoreWorld σ} {steps : List Step}
    {answer : Except OsError Finished} (h : Walk m seconds w steps w')
    (hran : (testCommand mockServer.url, answer) ∈ steps.flatMap Step.ran) : .test answer ∈ steps := by
  induction h with
  | done => cases hran
  | announce _ _ ih => exact ih hran
  | step taken _ ih =>
    rw [List.flatMap_cons, List.mem_append] at hran
    rcases hran with hran | hran
    · rw [taken.test hran]
      exact List.mem_cons_self
    · exact List.mem_cons_of_mem _ (ih hran)

variable (m : Machine σ)

/-- **The acceptance tests report the first failure and nothing else.** Whatever the programs answer that
are run, and however healthy the server is, they are a walk, and then what was started may be stopped and
removed. They succeed exactly when a server is there and the tests could be run and pass; otherwise the
result is the failure of the first step that has failed. No step is taken after that, and so the tests are
run only after steps that have all succeeded. What the commands to stop and to remove containers come to
makes no difference. -/
theorem integration_fails_first (silent : Bool) (o : IntegrationOptions) (w : ChoreWorld σ) :
    (∃ steps w₁ after, Walk m o.healthTimeout w steps w₁ ∧
      ((integration silent o).run m w).2.launches =
        w.launches ++ (steps.flatMap Step.ran ++ after) ∧
      (∀ p ∈ after, p.1.clears = true) ∧
      (((integration silent o).run m w).1 = .ok () ↔ Served o steps ∧ Passed steps) ∧
      ((integration silent o).run m w).1 =
        (steps.findSome? (·.failure? o.healthTimeout)).elim (.ok ()) .error ∧
      (steps.Pairwise fun earlier _ => earlier.failure? o.healthTimeout = none) ∧
      ∀ answer, (testCommand mockServer.url, answer) ∈ steps.flatMap Step.ran ++ after →
        ∃ before, steps = before ++ [.test answer] ∧
          ∀ earlier ∈ before, earlier.failure? o.healthTimeout = none) ∧
    ∀ reply : Launch → σ → Except OsError Finished,
      ((integration silent o).run (m.answering reply) w).1 = ((integration silent o).run m w).1 := by
  refine ⟨?_, fun reply => ?_⟩
  · obtain ⟨result, steps, w₁, after, w', walk, c, course⟩ := walk_integration m silent o w
    have reported := course.reported
    rw [c.run]
    refine ⟨steps, w₁, after, walk, c.launches, course.clears, course.ok_iff, reported.eq,
      reported.last, fun answer hran => ?_⟩
    have htest : .test answer ∈ steps := by
      rcases List.mem_append.1 hran with hran | hran
      · exact walk.test_mem hran
      · have hclears := course.clears _ hran
        simp [Launch.clears, testCommand] at hclears
    obtain ⟨before, rfl⟩ := course.test_last htest
    obtain ⟨-, -, hbefore⟩ := List.pairwise_append.1 reported.last
    exact ⟨before, rfl, fun earlier he => hbefore earlier he _ List.mem_cons_self⟩
  · obtain ⟨hresult, -⟩ :=
      twin_integration (m.twins_answering reply) silent silent o w w (ChoreWorld.Twins.refl w)
    exact hresult.symm

end CloudRehearsal.Chore
