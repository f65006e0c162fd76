import CloudRehearsal.Proofs.ContainerRelease

/-!
The acceptance tests touch no container but their own, and they do so with one runtime
(`integration_keeps_to_its_own`). What they run is known but for the answers (`Account`): versions are
asked for up to the first success, then the mock server is looked for and perhaps started, then the tests
are run, and then there may be something to stop.
-/
namespace CloudRehearsal.Chore

open Text
open Container (mockServer)

/-- What the acceptance tests run. -/
inductive Account (o : IntegrationOptions) : List Ran → Prop where
  /-- No container is to be touched. -/
  | spared (h : o.noDocker = true) (answer : Except OsError Finished) :
      Account o [(testCommand mockServer.url, answer)]
  /-- There is no runtime. -/
  | lacking {asked : List Ran} (h : o.noDocker = false)
      (hd : Detected ContainerRuntime.all none asked) : Account o asked
  /-- The mock server is not to be had: it cannot be looked for or started, or is not ready in time. -/
  | failing {runtime : ContainerRuntime} {asked started : List Ran} {e : ChoreError}
      (h : o.noDocker = false) (hd : Detected ContainerRuntime.all (some runtime) asked)
      (hs : Startup runtime o.healthTimeout (.error e) started) : Account o (asked ++ started)
  /-- The mock server runs, and is ours or not. -/
  | testing {runtime : ContainerRuntime} {asked started after : List Ran} {ours : Bool}
      (h : o.noDocker = false) (hd : Detected ContainerRuntime.all (some runtime) asked)
      (hs : Startup runtime o.healthTimeout (.ok ours) started) (answer : Except OsError Finished)
      (hc : Cleared o (if ours then some runtime else none) after) :
      Account o (asked ++ (started ++ (testCommand mockServer.url, answer) :: after))

/-! ## The parts of the chore -/

variable {σ : Type} (m : Machine σ)

/-- The headings, and the choice of a runtime. -/
def opening (silent : Bool) (o : IntegrationOptions) : Chore (Option ContainerRuntime) := do
  announce silent [.blue "Integration Tests"]
  announce silent []
  chooseRuntime silent o

theorem integration_eq (silent : Bool) (o : IntegrationOptions) :
    integration silent o = (do
      let runtime ← opening silent o
      let ours ← acquire silent o runtime
      let passed ← thenAlways (runTests silent mockServer.url) (release silent o ours)
      conclude passed) := by
  unfold integration opening
  simp only [bind_assoc]

theorem comes_opening (silent : Bool) (o : IntegrationOptions) (w : ChoreWorld σ) :
    ∃ result ran w', Comes m (opening silent o) w result ran w' ∧
      (o.noDocker = true ∧ result = .ok none ∧ ran = [] ∨
        o.noDocker = false ∧ ∃ found, result = (detection found).map some ∧
          Detected ContainerRuntime.all found ran) := by
  obtain ⟨w₁, c₁⟩ := comes_announce m silent [.blue "Integration Tests"] w
  obtain ⟨w₂, c₂⟩ := comes_announce m silent [] w₁
  obtain ⟨result, ran, w₃, c₃, h⟩ := comes_choice m silent o w₂
  exact ⟨result, ran, w₃, c₁.bind (c₂.bind c₃), h⟩

theorem Course.account {o : IntegrationOptions} {steps : List Step} {after : List Ran}
    {result : Except ChoreError Unit} (h : Course o steps after result) :
    Account o (steps.flatMap Step.ran ++ after) := by
  cases h with
  | spared h answer => exact .spared h answer
  | lacking h hd =>
    rw [List.flatMap_singleton, List.append_nil]
    exact .lacking h hd
  | failing h hd hs =>
    rw [List.flatMap_cons, List.append_nil]
    exact .failing h hd hs.startup
  | testing h hd hs answer hc =>
    rw [List.flatMap_cons, List.flatMap_append, List.append_assoc, List.append_assoc]
    exact .testing h hd hs.startup answer hc

theorem comes_integration (silent : Bool) (o : IntegrationOptions) (w : ChoreWorld σ) :
    ∃ result ran w', Comes m (integration silent o) w result ran w' ∧ Account o ran := by
  obtain ⟨result, steps, -, after, w', -, c, course⟩ := walk_integration m silent o w
  exact ⟨result, _, w', c, course.account⟩

/-! ## What an account shows -/

/-- A container is started, stopped or removed. -/
def Handles (l : Launch) : Prop := l.arguments.head? ∈ [some "run", some "stop", some "rm"]

/-- A runtime has been asked for its containers and has listed some. -/
def Lists (p : Ran) : Prop :=
  p.1.arguments.head? = some "ps" ∧
    ∃ finished, p.2 = .ok finished ∧ blank (Utf8.lenient finished.output) = false

/-- No runtime but this one has been told anything. -/
def Only (found : Option ContainerRuntime) (ran : List Ran) : Prop :=
  ∀ p ∈ ran, ∀ runtime : ContainerRuntime, p.1.command = runtime.command → found = some runtime

theorem testCommand_ne (url : String) (runtime : ContainerRuntime) :
    (testCommand url).command ≠ runtime.command := by
  cases runtime <;> exact ne_of_beq_false rfl

theorem Detected.not_lists {runtimes : List ContainerRuntime} {found : Option ContainerRuntime}
    {asked : List Ran} (h : Detected runtimes found asked) : ∀ p ∈ asked, ¬ Lists p := by
  rintro p hp ⟨hps, -⟩
  obtain ⟨runtime, hv⟩ := h.versions p hp
  rw [hv] at hps
  simp at hps

theorem Detected.handles_nothing {runtimes : List ContainerRuntime} {found : Option ContainerRuntime}
    {asked : List Ran} (h : Detected runtimes found asked) : ∀ p ∈ asked, ¬ Handles p.1 := by
  intro p hp
  obtain ⟨runtime, hv⟩ := h.versions p hp
  simp [Handles, hv]

theorem not_lists_testCommand (url : String) (answer : Except OsError Finished) :
    ¬ Lists (testCommand url, answer) := by
  rintro ⟨hps, -⟩
  simp [testCommand] at hps

theorem Only.append {found : Option ContainerRuntime} {ran ran' : List Ran} (h : Only found ran)
    (h' : Only found ran') : Only found (ran ++ ran') := by
  intro p hp
  rcases List.mem_append.1 hp with hp | hp
  · exact h p hp
  · exact h' p hp

theorem Only.test {found : Option ContainerRuntime} {ran : List Ran} (h : Only found ran)
    (answer : Except OsError Finished) : Only found ((testCommand mockServer.url, answer) :: ran) := by
  intro p hp runtime hr
  rcases List.mem_cons.1 hp with rfl | hp
  · exact absurd hr (testCommand_ne _ runtime)
  · exact h p hp runtime hr

theorem Only.of_told {runtime : ContainerRuntime} {ran : List Ran}
    (h : ∀ p ∈ ran, ∃ arguments, p.1 = told runtime arguments) : Only (some runtime) ran := by
  intro p hp other hr
  obtain ⟨arguments, hp⟩ := h p hp
  rw [hp] at hr
  rw [eq_of_command_eq hr]

section

variable {runtime : ContainerRuntime} {seconds : Nat} {result : Except ChoreError Bool}
  {o : IntegrationOptions} {ran : List Ran}

theorem Startup.told (h : Startup runtime seconds result ran) :
    ∀ p ∈ ran, ∃ arguments, p.1 = told runtime arguments := by
  cases h <;> simp

theorem Cleared.cases {ours : Bool} (h : Cleared o (if ours then some runtime else none) ran) :
    ran = [] ∨ ∃ stopped removed, ran = [(told runtime ["stop", mockServer.name], stopped),
      (told runtime ["rm", mockServer.name], removed)] := by
  cases ours with
  | false => exact .inl h
  | true =>
    have h : if o.keepContainers then ran = [] else ∃ stopped removed,
      ran = [(told runtime ["stop", mockServer.name], stopped),
        (told runtime ["rm", mockServer.name], removed)] := h
    split at h
    · exact .inl h
    · exact .inr h

theorem Cleared.told {ours : Bool} (h : Cleared o (if ours then some runtime else none) ran) :
    ∀ p ∈ ran, ∃ arguments, p.1 = told runtime arguments := by
  rcases h.cases with rfl | ⟨stopped, removed, rfl⟩ <;> simp

theorem Cleared.not_lists {ours : Bool} (h : Cleared o (if ours then some runtime else none) ran) :
    ∀ p ∈ ran, ¬ Lists p := by
  rcases h.cases with rfl | ⟨stopped, removed, rfl⟩ <;> simp [Lists]

/-- When a server is started, none was listed. -/
theorem not_lists_of_blank {finished : Finished} (h : blank (Utf8.lenient finished.output) = true)
    {stopped removed answer : Except OsError Finished} :
    ∀ p ∈ [(listing runtime, .ok finished), (told runtime ["stop", mockServer.name], stopped),
      (told runtime ["rm", mockServer.name], removed),
      (told runtime mockServer.runArguments, answer)], ¬ Lists p := by
  rintro p hp ⟨hps, finished', hf, hb⟩
  rcases List.mem_cons.1 hp with rfl | hp
  · cases hf
    exact absurd (h.symm.trans hb) (by decide)
  · simp only [List.mem_cons, List.not_mem_nil, or_false] at hp
    rcases hp with rfl | rfl | rfl <;> simp [Container.runArguments] at hps

/-- A server that runs already is found out before anything is done to a container. -/
theorem Startup.handles_nothing (h : Startup runtime seconds result ran) (hl : ∃ p ∈ ran, Lists p) :
    result = .ok false ∧ ∀ q ∈ ran, ¬ Handles q.1 := by
  obtain ⟨p, hp, hl⟩ := hl
  cases h with
  | unlisted e =>
    obtain ⟨-, finished, hf, -⟩ := hl
    rw [List.mem_singleton.1 hp] at hf
    cases hf
  | running _ => exact ⟨rfl, by simp [Handles]⟩
  | refused h _ => exact absurd hl (not_lists_of_blank h p hp)
  | begun _ h _ => exact absurd hl (not_lists_of_blank h p hp)

/-- No runtime is told anything when no container is to be touched. -/
theorem Account.spares (h : Account o ran) (hno : o.noDocker = true) :
    ∀ p ∈ ran, ∀ runtime : ContainerRuntime, p.1.command ≠ runtime.command := by
  cases h with
  | spared _ answer =>
    intro p hp runtime
    rw [List.mem_singleton.1 hp]
    exact testCommand_ne _ runtime
  | lacking h | failing h | testing h => rw [h] at hno; cases hno

/-- Otherwise one runtime is told everything, once it has been found. -/
theorem Account.one_runtime (h : Account o ran) (hno : o.noDocker = false) :
    ∃ found asked later, ran = asked ++ later ∧ Detected ContainerRuntime.all found asked ∧
      Only found later := by
  cases h with
  | spared h => rw [h] at hno; cases hno
  | lacking _ hd => exact ⟨none, ran, [], (List.append_nil _).symm, hd, by simp [Only]⟩
  | failing _ hd hs => exact ⟨_, _, _, rfl, hd, .of_told hs.told⟩
  | testing _ hd hs answer hc =>
    exact ⟨_, _, _, rfl, hd, (Only.of_told hs.told).append ((Only.of_told hc.told).test answer)⟩

/-- Where a running server is found out, no container is started, stopped or removed. -/
theorem Account.handles_nothing (h : Account o ran) (hl : ∃ p ∈ ran, Lists p) :
    ∀ p ∈ ran, ¬ Handles p.1 := by
  obtain ⟨p, hp, hl⟩ := hl
  cases h with
  | spared _ answer =>
    rw [List.mem_singleton.1 hp] at hl
    exact absurd hl (not_lists_testCommand _ answer)
  | lacking _ hd => exact absurd hl (hd.not_lists p hp)
  | failing _ hd hs =>
    rcases List.mem_append.1 hp with hp | hp
    · exact absurd hl (hd.not_lists p hp)
    · cases (hs.handles_nothing ⟨p, hp, hl⟩).1
  | testing _ hd hs answer hc =>
    rcases List.mem_append.1 hp with hp | hp
    · exact absurd hl (hd.not_lists p hp)
    rcases List.mem_append.1 hp with hp | hp
    · obtain ⟨hours, hstarted⟩ := hs.handles_nothing ⟨p, hp, hl⟩
      cases hours
      -- the server is not ours, so nothing comes after the tests
      cases hc
      intro q hq
      rcases List.mem_append.1 hq with hq | hq
      · exact hd.handles_nothing q hq
      rcases List.mem_append.1 hq with hq | hq
      · exact hstarted q hq
      · rw [List.mem_singleton.1 hq]
        simp [Handles, testCommand]
    · rcases List.mem_cons.1 hp with rfl | hp
      · exact absurd hl (not_lists_testCommand _ answer)
      · exact absurd hl (hc.not_lists p hp)

end

/-! ## The whole chore -/

/-- **The acceptance tests touch no container but their own, with one runtime.** Whatever the programs
answer that are run, and however healthy the server is: with `--no-docker` no runtime is told anything,
and otherwise the first that answers with its version is told everything else; where a server runs
already, no container is started, stopped or removed; and once the server has been started, the tests are
run once, and after them it is stopped and removed, unless it is to be kept. -/
theorem integration_keeps_to_its_own (m : Machine σ) (silent : Bool) (o : IntegrationOptions)
    (w : ChoreWorld σ) :
    (∃ ran, ((integration silent o).run m w).2.launches = w.launches ++ ran ∧
      (o.noDocker = true → ∀ p ∈ ran, ∀ runtime : ContainerRuntime, p.1.command ≠ runtime.command) ∧
      (o.noDocker = false → ∃ found asked later, ran = asked ++ later ∧
        Detected ContainerRuntime.all found asked ∧ Only found later) ∧
      ((∃ p ∈ ran, Lists p) → ∀ p ∈ ran, ¬ Handles p.1)) ∧
    ∀ runtime w₁ w₂, (opening silent o).run m w = (.ok (some runtime), w₁) →
      (startMockServer silent o.healthTimeout runtime).run m w₁ = (.ok true, w₂) →
      ∃ before answer after, w₂.launches = w.launches ++ before ∧
        ((integration silent o).run m w).2.launches =
          w₂.launches ++ (testCommand mockServer.url, answer) :: after ∧
        (∀ p ∈ before ++ after, p.1 ≠ testCommand mockServer.url) ∧
        if o.keepContainers then after = []
        else ∃ stopped removed, after = [(told runtime ["stop", mockServer.name], stopped),
          (told runtime ["rm", mockServer.name], removed)] := by
  refine ⟨?_, fun runtime w₁ w₂ h₁ h₂ => ?_⟩
  · obtain ⟨result, ran, w', c, account⟩ := comes_integration m silent o w
    refine ⟨ran, ?_, account.spares, account.one_runtime, account.handles_nothing⟩
    rw [c.run, c.launches]
  · obtain ⟨_, asked, w₁', c₁, hasked⟩ := comes_opening m silent o w
    obtain ⟨rfl, rfl⟩ := Prod.mk.inj (c₁.run.symm.trans h₁)
    obtain ⟨_, started, w₂', c₂, hs⟩ := comes_startup m silent o.healthTimeout runtime w₁'
    obtain ⟨rfl, rfl⟩ := Prod.mk.inj (c₂.run.symm.trans h₂)
    obtain ⟨answer, after, w₃, c₃, hc⟩ := comes_tests m silent o (some runtime) w₂'
    have hrun : (integration silent o).run m w = (concluded answer, w₃) := by
      rw [integration_eq]
      exact (c₁.bind ((comes_acquiring m c₂).bind c₃)).run
    have hc' : Cleared o (if true then some runtime else none) after := hc
    refine ⟨asked ++ started, answer, after, ?_, ?_, ?_, hc⟩
    · rw [c₂.launches, c₁.launches, List.append_assoc]
    · rw [hrun, c₃.launches]
    · intro p hp
      have htold : ∃ runtime arguments, p.1 = told runtime arguments := by
        rcases List.mem_append.1 hp with hp | hp
        · rcases List.mem_append.1 hp with hp | hp
          · obtain ⟨-, he, -⟩ | ⟨-, found, -, hd⟩ := hasked
            · cases he
            · obtain ⟨other, h⟩ := hd.versions p hp
              exact ⟨other, _, h⟩
          · exact ⟨runtime, hs.told p hp⟩
        · exact ⟨runtime, hc'.told p hp⟩
      obtain ⟨other, arguments, h⟩ := htold
      rw [h]
      exact fun he => testCommand_ne _ other (congrArg Launch.command he).symm

end CloudRehearsal.Chore
