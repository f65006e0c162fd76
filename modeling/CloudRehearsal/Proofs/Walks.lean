import CloudRehearsal.Proofs.Launches

/-!
The acceptance tests, step by step. A walk is a sequence of steps, each taken from the world in which the
one before has left it; in between something may be said (`Walk`). The lemmas give the steps of every part
of the chore: choosing a runtime (`walk_chooseRuntime`), starting the mock server (`walk_startMockServer`),
testing (`walk_tests`), and the whole of it (`walk_integration`). The steps are known but for what comes of
them (`StartSteps`, `Course`), and with them what is run (`Startup`).
-/
namespace CloudRehearsal.Chore

open Text
open Container (mockServer)

variable {σ : Type} {m : Machine σ} {seconds : Nat} {w w' w'' : ChoreWorld σ}

/-! ## Steps -/

/-- The question whether the mock server runs. -/
@[reducible]
def listing (runtime : ContainerRuntime) : Launch :=
  told runtime ["ps", "-q", "-f", s!"name={mockServer.name}"]

/-- A step of the acceptance tests, with what has come of it. -/
inductive Step where
  /-- Runtimes have been asked for their versions. -/
  | detect (found : Option ContainerRuntime) (asked : List Ran)
  /-- The runtime has been asked whether the mock server runs. -/
  | list (runtime : ContainerRuntime) (answer : Except OsError Finished)
  /-- The runtime has been told to run the mock server, after what was left of it has been stopped and
  removed. -/
  | start (runtime : ContainerRuntime) (stopped removed answer : Except OsError Finished)
  /-- The mock server has been asked for its health. -/
  | wait (healthy : Bool)
  | test (answer : Except OsError Finished)

namespace Step

/-- The programs that a step has run. -/
def ran : Step → List Ran
  | detect _ asked => asked
  | list runtime answer => [(listing runtime, answer)]
  | start runtime stopped removed answer =>
    [(told runtime ["stop", mockServer.name], stopped), (told runtime ["rm", mockServer.name], removed),
      (told runtime mockServer.runArguments, answer)]
  | wait _ => []
  | test answer => [(testCommand mockServer.url, answer)]

/-- From one world to the other the step is taken. -/
def Taken (m : Machine σ) (seconds : Nat) (w w' : ChoreWorld σ) : Step → Prop
  | detect found asked =>
    Comes m detectRuntime w (detection found) asked w' ∧ Detected ContainerRuntime.all found asked
  | list runtime answer =>
    Comes m (isRunning runtime mockServer.name) w (listed answer) (list runtime answer).ran w'
  | start runtime stopped removed answer =>
    Comes m (Chore.start runtime mockServer) w (begun mockServer answer)
      (start runtime stopped removed answer).ran w'
  | wait healthy =>
    Comes m (awaitHealth mockServer (.ofSeconds seconds)) w
      (if healthy then .ok () else .error (.unhealthy mockServer.name seconds)) (wait healthy).ran w'
  | test answer =>
    Comes m (launch (testCommand mockServer.url)) w (.ok answer) (test answer).ran w'

theorem Taken.launches {step : Step} (h : step.Taken m seconds w w') :
    w'.launches = w.launches ++ step.ran := by
  cases step with
  | detect => exact h.1.launches
  | list | start | wait | test => exact Comes.launches h

end Step

/-! ## Walks -/

/-- A chore has taken these steps, one from the world after the other. -/
inductive Walk (m : Machine σ) (seconds : Nat) : ChoreWorld σ → List Step → ChoreWorld σ → Prop where
  | done (w : ChoreWorld σ) : Walk m seconds w [] w
  | announce {w w₁ w' : ChoreWorld σ} {silent : Bool} {line : List Span} {steps : List Step}
      (h : Comes m (announce silent line) w (.ok ()) [] w₁) (later : Walk m seconds w₁ steps w') :
      Walk m seconds w steps w'
  | step {w w₁ w' : ChoreWorld σ} {step : Step} {steps : List Step}
      (h : step.Taken m seconds w w₁) (later : Walk m seconds w₁ steps w') :
      Walk m seconds w (step :: steps) w'

theorem Walk.trans {steps steps' : List Step} (h : Walk m seconds w steps w')
    (h' : Walk m seconds w' steps' w'') : Walk m seconds w (steps ++ steps') w'' := by
  induction h with
  | done => exact h'
  | announce said _ ih => exact .announce said (ih h')
  | step taken _ ih => exact .step taken (ih h')

theorem Walk.launches {steps : List Step} (h : Walk m seconds w steps w') :
    w'.launches = w.launches ++ steps.flatMap Step.ran := by
  induction h with
  | done => exact (List.append_nil _).symm
  | announce said _ ih => rw [ih, said.launches, List.append_nil]
  | step taken _ ih => rw [ih, taken.launches, List.flatMap_cons, List.append_assoc]

/-! ## Choosing a runtime -/

variable (m)

/-- Without a container to be touched there is no runtime, and nothing is looked for. -/
theorem walk_chooseRuntime (silent : Bool) (o : IntegrationOptions) (seconds : Nat)
    (w : ChoreWorld σ) :
    ∃ result steps w', (chooseRuntime silent o).run m w = (result, w') ∧ Walk m seconds w steps w' ∧
      (o.noDocker = true ∧ result = .ok none ∧ steps = [] ∨
        o.noDocker = false ∧ ∃ found asked, result = (detection found).map some ∧
          steps = [.detect found asked] ∧ Detected ContainerRuntime.all found asked) := by
  unfold chooseRuntime
  cases o.noDocker with
  | true =>
    obtain ⟨w', c⟩ := comes_announce m silent
      [.yellow "⚠️", .plain " Skipping moto container management (--no-docker)"] w
    exact ⟨_, [], w', (c.bind (f := fun _ => pure none) (.pure none w')).run, .announce c (.done w'),
      .inl ⟨rfl, rfl, rfl⟩⟩
  | false =>
    obtain ⟨found, asked, w', c, d⟩ := comes_detectAmong m ContainerRuntime.all w
    have taken : (Step.detect found asked).Taken m seconds w w' := ⟨c, d⟩
    refine ⟨_, _, w', ?_, .step taken (.done w'), .inr ⟨rfl, found, asked, rfl, rfl, d⟩⟩
    cases found with
    | none => exact c.bind_error.run
    | some runtime =>
      exact (c.bind (f := fun runtime => pure (some runtime)) (.pure (some runtime) w')).run

theorem comes_choice (silent : Bool) (o : IntegrationOptions) (w : ChoreWorld σ) :
    ∃ result ran w', Comes m (chooseRuntime silent o) w result ran w' ∧
      (o.noDocker = true ∧ result = .ok none ∧ ran = [] ∨
        o.noDocker = false ∧ ∃ found, result = (detection found).map some ∧
          Detected ContainerRuntime.all found ran) := by
  obtain ⟨result, steps, w', hrun, walk, h⟩ := walk_chooseRuntime m silent o o.healthTimeout w
  refine ⟨result, steps.flatMap Step.ran, w', ⟨hrun, walk.launches⟩, ?_⟩
  obtain ⟨hno, hresult, rfl⟩ | ⟨hno, found, asked, hresult, rfl, d⟩ := h
  · exact .inl ⟨hno, hresult, rfl⟩
  · refine .inr ⟨hno, found, hresult, ?_⟩
    rwa [List.flatMap_singleton]

/-- At most versions are asked for, and there may be no runtime. -/
theorem comes_chooseRuntime (silent : Bool) (o : IntegrationOptions) (w : ChoreWorld σ) :
    ∃ result ran w', Comes m (chooseRuntime silent o) w result ran w' ∧
      (∀ p ∈ ran, ∃ runtime, p.1 = told runtime ["--version"]) ∧
      ∀ e, result = .error e → ∃ reason, e = .noRuntime reason := by
  obtain ⟨result, ran, w', c, ⟨-, rfl, rfl⟩ | ⟨-, found, rfl, d⟩⟩ := comes_choice m silent o w
  · exact ⟨_, _, w', c, by simp, by simp⟩
  · refine ⟨_, _, w', c, d.versions, fun e he => ?_⟩
    cases found with
    | none => exact ⟨_, (Except.error.inj he).symm⟩
    | some runtime => cases he

/-! ## Starting the mock server -/

/-- The steps that start the mock server, and what they come to. -/
inductive StartSteps (runtime : ContainerRuntime) (seconds : Nat) :
    List Step → Except ChoreError Bool → Prop where
  /-- There is no answer to the question whether it runs. -/
  | unlisted (e : OsError) : StartSteps runtime seconds [.list runtime (.error e)] (.error (.os e))
  /-- It runs already. -/
  | running {finished : Finished} (h : blank (Utf8.lenient finished.output) = false) :
      StartSteps runtime seconds [.list runtime (.ok finished)] (.ok false)
  /-- It cannot be started. -/
  | refused {finished : Finished} {stopped removed answer : Except OsError Finished} {e : ChoreError}
      (h : blank (Utf8.lenient finished.output) = true) (hb : begun mockServer answer = .error e) :
      StartSteps runtime seconds [.list runtime (.ok finished), .start runtime stopped removed answer]
        (.error e)
  /-- It is started, and is ready in time or not. -/
  | begun {finished : Finished} {stopped removed answer : Except OsError Finished} (healthy : Bool)
      (h : blank (Utf8.lenient finished.output) = true) (hb : begun mockServer answer = .ok ()) :
      StartSteps runtime seconds
        [.list runtime (.ok finished), .start runtime stopped removed answer, .wait healthy]
        (if healthy then .ok true else .error (.unhealthy mockServer.name seconds))

/-- The machine's answer to the question whether the server runs decides how it is started. -/
theorem walk_startMockServer (silent : Bool) (seconds : Nat) (runtime : ContainerRuntime)
    (w : ChoreWorld σ) :
    ∃ result steps w', (startMockServer silent seconds runtime).run m w = (result, w') ∧
      Walk m seconds w (.list runtime (answered m (listing runtime) w) :: steps) w' ∧
      StartSteps runtime seconds (.list runtime (answered m (listing runtime) w) :: steps) result := by
  obtain ⟨w₁, c₁⟩ := comes_isRunning m runtime mockServer.name w
  unfold startMockServer
  generalize answered m (listing runtime) w = ps at c₁ ⊢
  have taken : (Step.list runtime ps).Taken m seconds w w₁ := c₁
  cases ps with
  | error e => exact ⟨_, [], w₁, c₁.bind_error.run, .step taken (.done w₁), .unlisted e⟩
  | ok finished =>
  have hl : listed (.ok finished) = .ok (!blank (Utf8.lenient finished.output)) := rfl
  rw [hl] at c₁
  cases hblank : blank (Utf8.lenient finished.output) with
  | false =>
    rw [hblank] at c₁
    obtain ⟨w₂, c₂⟩ := comes_announce m silent
      [.yellow "⚠️", .plain " moto container already running"] w₁
    exact ⟨_, [], w₂, (c₁.bind (c₂.bind (f := fun _ => pure false) (.pure false w₂))).run,
      .step taken (.announce c₂ (.done w₂)), .running hblank⟩
  | true =>
  rw [hblank] at c₁
  obtain ⟨w₂, c₂⟩ := comes_announce m silent
    [.blue "🐳", .plain " Starting moto container..."] w₁
  obtain ⟨stopped, removed, answer, w₃, c₃⟩ := comes_start m runtime mockServer w₂
  have started : (Step.start runtime stopped removed answer).Taken m seconds w₂ w₃ := c₃
  cases hb : begun mockServer answer with
  | error e =>
    rw [hb] at c₃
    exact ⟨_, [_], w₃, (c₁.bind (c₂.bind c₃.bind_error)).run,
      .step taken (.announce c₂ (.step started (.done w₃))), .refused hblank hb⟩
  | ok u =>
    rw [hb] at c₃
    obtain ⟨w₄, c₄⟩ := comes_announce m silent
      [.blue "⏳", .plain s!" Waiting for container health (max {seconds}s)..."] w₃
    obtain ⟨healthy, w₅, c₅⟩ := comes_awaitHealth m mockServer (.ofSeconds seconds) w₄
    have waited : (Step.wait healthy).Taken m seconds w₄ w₅ := c₅
    have walk {w' : ChoreWorld σ} (h : Walk m seconds w₅ [] w') :
        Walk m seconds w [.list runtime (.ok finished), .start runtime stopped removed answer,
          .wait healthy] w' :=
      .step taken (.announce c₂ (.step started (.announce c₄ (.step waited h))))
    cases healthy with
    | false =>
      exact ⟨_, [_, _], w₅, (c₁.bind (c₂.bind (c₃.bind (c₄.bind c₅.bind_error)))).run,
        walk (.done w₅), .begun false hblank hb⟩
    | true =>
      obtain ⟨w₆, c₆⟩ := comes_announce m silent
        [.green "✅", .plain s!" moto is ready at {mockServer.url}"] w₅
      exact ⟨_, [_, _], w₆, (c₁.bind (c₂.bind (c₃.bind (c₄.bind (c₅.bind (c₆.bind
        (f := fun _ => pure true) (.pure true w₆))))))).run, walk (.announce c₆ (.done w₆)),
        .begun true hblank hb⟩

/-- What starting the mock server comes to, and what is run for it. -/
inductive Startup (runtime : ContainerRuntime) (seconds : Nat) :
    Except ChoreError Bool → List Ran → Prop where
  /-- There is no answer to the question whether it runs. -/
  | unlisted (e : OsError) : Startup runtime seconds (.error (.os e)) [(listing runtime, .error e)]
  /-- It runs already. -/
  | running {finished : Finished} (h : blank (Utf8.lenient finished.output) = false) :
      Startup runtime seconds (.ok false) [(listing runtime, .ok finished)]
  /-- It cannot be started. -/
  | refused {finished : Finished} {stopped removed answer : Except OsError Finished} {e : ChoreError}
      (h : blank (Utf8.lenient finished.output) = true) (hb : begun mockServer answer = .error e) :
      Startup runtime seconds (.error e) [(listing runtime, .ok finished),
        (told runtime ["stop", mockServer.name], stopped),
        (told runtime ["rm", mockServer.name], removed),
        (told runtime mockServer.runArguments, answer)]
  /-- It is started, and is ready in time or not. -/
  | begun {finished : Finished} {stopped removed answer : Except OsError Finished} (healthy : Bool)
      (h : blank (Utf8.lenient finished.output) = true) (hb : begun mockServer answer = .ok ()) :
      Startup runtime seconds
        (if healthy then .ok true else .error (.unhealthy mockServer.name seconds))
        [(listing runtime, .ok finished), (told runtime ["stop", mockServer.name], stopped),
          (told runtime ["rm", mockServer.name], removed),
          (told runtime mockServer.runArguments, answer)]

theorem StartSteps.startup {runtime : ContainerRuntime} {steps : List Step}
    {result : Except ChoreError Bool} (h : StartSteps runtime seconds steps result) :
    Startup runtime seconds result (steps.flatMap Step.ran) := by
  cases h with
  | unlisted e => exact .unlisted e
  | running h => exact .running h
  | refused h hb => exact .refused h hb
  | begun healthy h hb => exact .begun healthy h hb

theorem comes_startup_answered (silent : Bool) (seconds : Nat) (runtime : ContainerRuntime)
    (w : ChoreWorld σ) :
    ∃ result ran w', Comes m (startMockServer silent seconds runtime) w result ran w' ∧
      Startup runtime seconds result ran ∧
        ran.head? = some (listing runtime, answered m (listing runtime) w) := by
  obtain ⟨result, steps, w', hrun, walk, started⟩ := walk_startMockServer m silent seconds runtime w
  exact ⟨result, _, w', ⟨hrun, walk.launches⟩, started.startup, rfl⟩

theorem comes_startup (silent : Bool) (seconds : Nat) (runtime : ContainerRuntime)
    (w : ChoreWorld σ) :
    ∃ result ran w', Comes m (startMockServer silent seconds runtime) w result ran w' ∧
      Startup runtime seconds result ran := by
  obtain ⟨result, ran, w', c, h, -⟩ := comes_startup_answered m silent seconds runtime w
  exact ⟨result, ran, w', c, h⟩

/-- A server that has been started is in hand, and one that runs already is not. -/
theorem comes_acquiring {silent : Bool} {o : IntegrationOptions} {runtime : ContainerRuntime}
    {ours : Bool} {ran : List Ran}
    (c : Comes m (startMockServer silent o.healthTimeout runtime) w (.ok ours) ran w') :
    Comes m (acquire silent o (some runtime)) w (.ok (if ours then some runtime else none)) ran w' := by
  have c' := c.bind (f := fun started => pure (if started then some runtime else none)) (.pure _ w')
  rwa [List.append_nil] at c'

/-! ## Testing -/

theorem walk_runTests (silent : Bool) (seconds : Nat) (w : ChoreWorld σ) :
    ∃ answer w₁ w', Walk m seconds w [.test answer] w₁ ∧ Comes m (runTests silent mockServer.url) w
      (tested answer) [(testCommand mockServer.url, answer)] w' := by
  obtain ⟨w₁, c₁⟩ := comes_announce m silent
    [.blue "  →", .plain " Running against: ", .yellow mockServer.url] w
  have verdict : ∀ (finished : Finished) (w : ChoreWorld σ), ∃ w', Comes m (do
      if finished.success then
        announce silent [.green "✅", .plain " mock-server tests passed"]
        return true
      else
        say [.red "❌", .plain " mock-server tests failed"]
        return false) w (.ok finished.success) [] w' := by
    intro finished w
    cases finished.success with
    | true =>
      obtain ⟨w', c⟩ := comes_announce m silent [.green "✅", .plain " mock-server tests passed"] w
      exact ⟨w', c.bind (f := fun _ => pure true) (.pure true w')⟩
    | false =>
      obtain ⟨w', c⟩ := comes_say m [.red "❌", .plain " mock-server tests failed"] w
      exact ⟨w', c.bind (f := fun _ => pure false) (.pure false w')⟩
  obtain ⟨w₂, c₂⟩ := comes_launch_answered m (testCommand mockServer.url) w₁
  have taken : (Step.test (answered m (testCommand mockServer.url) w₁)).Taken m seconds w₁ w₂ := c₂
  obtain ⟨w₃, c₃⟩ := comes_launch_bind m (testCommand mockServer.url) verdict w₁
  exact ⟨_, w₂, w₃, .announce c₁ (.step taken (.done w₂)), c₁.bind c₃⟩

/-- The tests are run once, and what comes after them does not depend on what they have come to. -/
theorem walk_tests (silent : Bool) (o : IntegrationOptions) (ours : Option ContainerRuntime)
    (seconds : Nat) (w : ChoreWorld σ) :
    ∃ answer after w₁ w', Walk m seconds w [.test answer] w₁ ∧ Comes m (do
        let passed ← thenAlways (runTests silent mockServer.url) (release silent o ours)
        conclude passed) w (concluded answer) ((testCommand mockServer.url, answer) :: after) w' ∧
      Cleared o ours after := by
  obtain ⟨answer, w₁, w₂, walk, c₂⟩ := walk_runTests m silent seconds w
  obtain ⟨after, w₃, c₃, hc⟩ := comes_clearing m silent o ours w₂
  have c := c₂.thenAlways c₃
  cases answer with
  | error e => exact ⟨.error e, after, w₁, w₃, walk, c.bind_error, hc⟩
  | ok finished =>
    obtain ⟨w₄, c₄⟩ := comes_conclude m finished.success w₃
    have c' := c.bind c₄
    rw [List.append_nil] at c'
    exact ⟨.ok finished, after, w₁, w₄, walk, c', hc⟩

theorem comes_tests (silent : Bool) (o : IntegrationOptions) (ours : Option ContainerRuntime)
    (w : ChoreWorld σ) :
    ∃ answer after w', Comes m (do
        let passed ← thenAlways (runTests silent mockServer.url) (release silent o ours)
        conclude passed) w (concluded answer) ((testCommand mockServer.url, answer) :: after) w' ∧
      Cleared o ours after := by
  obtain ⟨answer, after, -, w', -, c, hc⟩ := walk_tests m silent o ours o.healthTimeout w
  exact ⟨answer, after, w', c, hc⟩

/-! ## The whole chore -/

/-- The steps of the acceptance tests, what is run after them, and what they come to. -/
inductive Course (o : IntegrationOptions) :
    List Step → List Ran → Except ChoreError Unit → Prop where
  /-- No container is to be touched. -/
  | spared (h : o.noDocker = true) (answer : Except OsError Finished) :
      Course o [.test answer] [] (concluded answer)
  /-- There is no runtime. -/
  | lacking {asked : List Ran} (h : o.noDocker = false)
      (hd : Detected ContainerRuntime.all none asked) :
      Course o [.detect none asked] []
        (.error (.noRuntime "Neither docker nor podman found in PATH"))
  /-- The mock server is not to be had: it cannot be looked for or started, or is not ready in time. -/
  | failing {runtime : ContainerRuntime} {asked : List Ran} {steps : List Step} {e : ChoreError}
      (h : o.noDocker = false) (hd : Detected ContainerRuntime.all (some runtime) asked)
      (hs : StartSteps runtime o.healthTimeout steps (.error e)) :
      Course o (.detect (some runtime) asked :: steps) [] (.error e)
  /-- The mock server runs, and is ours or not. -/
  | testing {runtime : ContainerRuntime} {asked after : List Ran} {steps : List Step} {ours : Bool}
      (h : o.noDocker = false) (hd : Detected ContainerRuntime.all (some runtime) asked)
      (hs : StartSteps runtime o.healthTimeout steps (.ok ours)) (answer : Except OsError Finished)
      (hc : Cleared o (if ours then some runtime else none) after) :
      Course o (.detect (some runtime) asked :: (steps ++ [.test answer])) after (concluded answer)

/-- The acceptance tests are a walk, and what was started may be cleared away after it. -/
theorem walk_integration (silent : Bool) (o : IntegrationOptions) (w : ChoreWorld σ) :
    ∃ result steps w₁ after w', Walk m o.healthTimeout w steps w₁ ∧
      Comes m (integration silent o) w result (steps.flatMap Step.ran ++ after) w' ∧
      Course o steps after result := by
  obtain ⟨w₁, c₁⟩ := comes_announce m silent [.blue "Integration Tests"] w
  obtain ⟨w₂, c₂⟩ := comes_announce m silent [] w₁
  obtain ⟨_, steps, w₃, h₃, walk, h⟩ := walk_chooseRuntime m silent o o.healthTimeout w₂
  have c₃ : Comes m (chooseRuntime silent o) w₂ _ _ w₃ := ⟨h₃, walk.launches⟩
  have walk₀ : Walk m o.healthTimeout w steps w₃ := .announce c₁ (.announce c₂ walk)
  obtain ⟨hno, rfl, rfl⟩ | ⟨hno, found, asked, rfl, rfl, hd⟩ := h
  · obtain ⟨answer, after, w₄, w₅, tests, c₅, rfl⟩ := walk_tests m silent o none o.healthTimeout w₃
    have c : Comes m (integration silent o) w _ _ w₅ :=
      c₁.bind (c₂.bind (c₃.bind ((Comes.pure none w₃).bind c₅)))
    exact ⟨_, _, w₄, [], w₅, walk₀.trans tests, c, .spared hno answer⟩
  cases found with
  | none =>
    have c : Comes m (integration silent o) w _ _ w₃ := c₁.bind (c₂.bind c₃.bind_error)
    exact ⟨_, _, w₃, [], w₃, walk₀, by simpa using c, .lacking hno hd⟩
  | some runtime =>
  obtain ⟨started, steps, w₄, h₄, starting, hs⟩ :=
    walk_startMockServer m silent o.healthTimeout runtime w₃
  generalize Step.list runtime _ :: steps = steps at starting hs
  have c₄ : Comes m (startMockServer silent o.healthTimeout runtime) w₃ _ _ w₄ :=
    ⟨h₄, starting.launches⟩
  cases started with
  | error e =>
    have c₄' : Comes m (acquire silent o (some runtime)) w₃ (.error e) _ w₄ := c₄.bind_error
    have c : Comes m (integration silent o) w _ _ w₄ := c₁.bind (c₂.bind (c₃.bind c₄'.bind_error))
    exact ⟨_, _, w₄, [], w₄, walk₀.trans starting, by simpa using c, .failing hno hd hs⟩
  | ok ours =>
    obtain ⟨answer, after, w₅, w₆, tests, c₆, hc⟩ :=
      walk_tests m silent o (if ours then some runtime else none) o.healthTimeout w₄
    have c : Comes m (integration silent o) w _ _ w₆ :=
      c₁.bind (c₂.bind (c₃.bind ((comes_acquiring m c₄).bind c₆)))
    exact ⟨_, _, w₅, after, w₆, walk₀.trans (starting.trans tests), by simpa [Step.ran] using c,
      .testing hno hd hs answer hc⟩

end CloudRehearsal.Chore
