import CloudRehearsal.Proofs.Walks

/-!
The container that the acceptance tests start. Unless it is to be kept, it is stopped and removed before
the tests are done with, whatever the tests come to, with one exception: a server that is not healthy in
time is left as it is (`integration_releases_iff`).
-/
namespace CloudRehearsal.Chore

open Text
open Container (mockServer)

/-! ## Starting and stopping -/

/-- The name that the arguments of a runtime give to a container. -/
def nameGiven : List String → Option String
  | [] => none
  | argument :: rest => if argument = "--name" then rest.head? else nameGiven rest

theorem nameGiven_runArguments (c : Container) : nameGiven c.runArguments = some c.name := by
  simp [nameGiven, Container.runArguments]

/-- A container has been started: a runtime was told to run one, and did. -/
structure Starts (runtime : ContainerRuntime) (p : Ran) : Prop where
  command : p.1.command = runtime.command
  run : p.1.arguments.head? = some "run"
  success : ∃ finished, p.2 = .ok finished ∧ finished.success = true

/-- The runtime is told to stop a container and then to remove it. -/
def Stopped (runtime : ContainerRuntime) (name : String) (ran : List Ran) : Prop :=
  [told runtime ["stop", name], told runtime ["rm", name]].Sublist (ran.map Prod.fst)

/-- Every container that has been started is stopped and removed later. -/
def Released : List Ran → Prop
  | [] => True
  | p :: later =>
    (∀ runtime, Starts runtime p →
      ∃ name, nameGiven p.1.arguments = some name ∧ Stopped runtime name later) ∧
    Released later

/-- No container has been started. -/
def Idle (ran : List Ran) : Prop := ∀ p ∈ ran, ∀ runtime, ¬ Starts runtime p

theorem Idle.nil : Idle [] := fun _ h => nomatch h

theorem Idle.cons {p : Ran} {ran : List Ran} (hp : p.1.arguments.head? ≠ some "run") (h : Idle ran) :
    Idle (p :: ran) := by
  intro q hq runtime s
  rcases List.mem_cons.1 hq with rfl | hq
  · exact hp s.run
  · exact h q hq runtime s

theorem Idle.append {ran ran' : List Ran} (h : Idle ran) (h' : Idle ran') : Idle (ran ++ ran') := by
  intro p hp
  rcases List.mem_append.1 hp with hp | hp
  · exact h p hp
  · exact h' p hp

theorem Idle.of_versions {ran : List Ran} (h : ∀ p ∈ ran, ∃ runtime, p.1 = told runtime ["--version"]) :
    Idle ran := by
  intro p hp
  obtain ⟨runtime, hv⟩ := h p hp
  have idle : Idle [p] := .cons (by simp [hv]) .nil
  exact idle p List.mem_cons_self

theorem Idle.released : ∀ {ran : List Ran}, Idle ran → Released ran
  | [], _ => trivial
  | p :: _, h =>
    ⟨fun runtime s => absurd s (h p List.mem_cons_self runtime),
      Idle.released fun q hq => h q (List.mem_cons_of_mem _ hq)⟩

/-- Where nothing is started before, all depends on what comes later. -/
theorem Idle.released_append_iff : ∀ {before later : List Ran}, Idle before →
    (Released (before ++ later) ↔ Released later)
  | [], _, _ => Iff.rfl
  | p :: before, later, h => by
    have ih : Released (before ++ later) ↔ Released later :=
      Idle.released_append_iff fun q hq => h q (List.mem_cons_of_mem _ hq)
    show _ ∧ Released (before ++ later) ↔ _
    rw [ih]
    exact and_iff_right fun runtime s => absurd s (h p List.mem_cons_self runtime)

theorem eq_of_command_eq {runtime runtime' : ContainerRuntime}
    (h : runtime.command = runtime'.command) : runtime = runtime' := by
  cases runtime <;> cases runtime' <;> first | rfl | exact absurd h (by decide)

/-! ## What has been started so far -/

/-- Whether the mock server has been started, and by which runtime: if so it came last. -/
def Holds : Option ContainerRuntime → List Ran → Prop
  | none, ran => Idle ran
  | some runtime, ran => ∃ before p, ran = before ++ [p] ∧ Idle before ∧ Starts runtime p ∧
      nameGiven p.1.arguments = some mockServer.name

theorem Holds.released : ∀ {ours : Option ContainerRuntime} {ran later : List Ran}, Holds ours ran →
    Idle later → (∀ runtime, ours = some runtime → Stopped runtime mockServer.name later) →
    Released (ran ++ later)
  | none, _, _, h, hl, _ => (h.append hl).released
  | some runtime, _, later, ⟨before, p, hran, hb, hs, hn⟩, hl, hstop => by
    rw [hran, List.append_assoc, hb.released_append_iff]
    refine ⟨fun runtime' hs' => ⟨mockServer.name, hn, ?_⟩, hl.released⟩
    rw [eq_of_command_eq (hs'.command.symm.trans hs.command)]
    exact hstop runtime rfl

theorem Holds.not_released {runtime : ContainerRuntime} {ran : List Ran} (h : Holds (some runtime) ran) :
    ¬ Released ran := by
  obtain ⟨before, p, rfl, hb, hs, -⟩ := h
  rw [hb.released_append_iff]
  rintro ⟨hstop, -⟩
  obtain ⟨name, -, h⟩ := hstop runtime hs
  cases h

/-! ## The parts of the chore -/

variable {σ : Type} (m : Machine σ)

theorem begun_ne_unhealthy (c : Container) (answer : Except OsError Finished) (name : String)
    (seconds : Nat) : begun c answer ≠ .error (.unhealthy name seconds) := by
  cases answer with
  | error e => exact fun h => (nomatch h)
  | ok finished =>
    show (if finished.success then _ else _) ≠ _
    split <;> exact fun h => (nomatch h)

theorem begun_error {c : Container} {runtime : ContainerRuntime} {answer : Except OsError Finished}
    {e : ChoreError} (h : begun c answer = .error e) : Idle [(told runtime c.runArguments, answer)] := by
  intro p hp runtime' s
  rw [List.mem_singleton.1 hp] at s
  rw [begun_eq_ok_iff.2 s.success] at h
  cases h

/-- Starting the mock server: it runs already and is not ours, or something fails before it is started,
or it is started, and may still turn out not to be healthy. -/
theorem comes_startMockServer (silent : Bool) (seconds : Nat) (runtime : ContainerRuntime)
    (w : ChoreWorld σ) :
    ∃ result ran w', Comes m (startMockServer silent seconds runtime) w result ran w' ∧
      (result = .ok false ∧ Idle ran ∨
        (∃ e, result = .error e ∧ (∀ name seconds, e ≠ .unhealthy name seconds) ∧ Idle ran) ∨
        (result = .ok true ∨ result = .error (.unhealthy mockServer.name seconds)) ∧
          Holds (some runtime) ran) := by
  obtain ⟨result, ran, w', c, h⟩ := comes_startup m silent seconds runtime w
  refine ⟨result, ran, w', c, ?_⟩
  -- asking whether it runs, and clearing the name, starts nothing
  have asked : ∀ ps, Idle [(listing runtime, ps)] := fun ps => .cons (by simp) .nil
  have cleared : ∀ ps stopped removed, Idle [(listing runtime, ps),
      (told runtime ["stop", mockServer.name], stopped),
      (told runtime ["rm", mockServer.name], removed)] :=
    fun ps _ _ => (asked ps).append (.cons (by simp) (.cons (by simp) .nil))
  cases h with
  | unlisted e => exact .inr (.inl ⟨.os e, rfl, (fun _ _ h => nomatch h), asked _⟩)
  | running h => exact .inl ⟨rfl, asked _⟩
  | @refused finished stopped removed answer e h hb =>
    refine .inr (.inl ⟨e, rfl, fun name seconds he => ?_, ?_⟩)
    · exact begun_ne_unhealthy mockServer answer name seconds (he ▸ hb)
    · exact (cleared _ stopped removed).append (begun_error hb)
  | @begun finished stopped removed answer healthy h hb =>
    refine .inr (.inr ⟨?_, _, _, rfl, cleared _ stopped removed,
      ⟨rfl, rfl, begun_eq_ok_iff.1 hb⟩, nameGiven_runArguments mockServer⟩)
    cases healthy with
    | true => exact .inl rfl
    | false => exact .inr rfl

/-- What is left in hand is what has been started; a server that is not healthy in time is started and
not in hand. -/
theorem comes_acquire (silent : Bool) (o : IntegrationOptions) (runtime : Option ContainerRuntime)
    (w : ChoreWorld σ) :
    ∃ result ran w', Comes m (acquire silent o runtime) w result ran w' ∧
      ((∃ ours, result = .ok ours ∧ Holds ours ran) ∨
        (∃ e, result = .error e ∧ (∀ name seconds, e ≠ .unhealthy name seconds) ∧ Idle ran) ∨
        result = .error (.unhealthy mockServer.name o.healthTimeout) ∧
          ∃ runtime, Holds (some runtime) ran) := by
  cases runtime with
  | none => exact ⟨_, _, w, .pure none w, .inl ⟨none, rfl, .nil⟩⟩
  | some runtime =>
    obtain ⟨result, ran, w₁, c, h⟩ := comes_startMockServer m silent o.healthTimeout runtime w
    rcases h with ⟨rfl, idle⟩ | ⟨e, rfl, he, idle⟩ | ⟨rfl | rfl, holds⟩
    · exact ⟨_, ran, w₁, comes_acquiring m c, .inl ⟨none, rfl, idle⟩⟩
    · exact ⟨_, ran, w₁, c.bind_error, .inr (.inl ⟨e, rfl, he, idle⟩)⟩
    · exact ⟨_, ran, w₁, comes_acquiring m c, .inl ⟨some runtime, rfl, holds⟩⟩
    · exact ⟨_, ran, w₁, c.bind_error, .inr (.inr ⟨rfl, runtime, holds⟩)⟩

/-- Whatever the tests come to, what is in hand is stopped after them. -/
theorem comes_testing (silent : Bool) {o : IntegrationOptions} (h : o.keepContainers = false)
    (ours : Option ContainerRuntime) (w : ChoreWorld σ) :
    ∃ result ran w', Comes m (do
        let passed ← thenAlways (runTests silent mockServer.url) (release silent o ours)
        conclude passed) w result ran w' ∧
      (∀ name seconds, result ≠ .error (.unhealthy name seconds)) ∧ Idle ran ∧
      ∀ runtime, ours = some runtime → Stopped runtime mockServer.name ran := by
  obtain ⟨answer, after, w', c, hc⟩ := comes_tests m silent o ours w
  have hne : ∀ name seconds, concluded answer ≠ .error (.unhealthy name seconds) := by
    intro name seconds
    cases answer with
    | error e => exact fun h => nomatch h
    | ok finished =>
      show (if finished.success then _ else _) ≠ _
      split <;> exact fun h => nomatch h
  have test : Idle [(testCommand mockServer.url, answer)] := .cons (by simp [testCommand]) .nil
  cases ours with
  | none =>
    cases hc
    exact ⟨_, _, w', c, hne, test, by simp⟩
  | some runtime =>
    unfold Cleared at hc
    rw [h] at hc
    obtain ⟨stopped, removed, rfl⟩ := hc
    refine ⟨_, _, w', c, hne, test.append (.cons (by simp) (.cons (by simp) .nil)), ?_⟩
    rintro _ ⟨⟩
    exact (List.Sublist.refl _).cons _

/-! ## The whole chore -/

/-- **Every container that the acceptance tests start is stopped and removed again**, unless it is to be
kept, exactly when the chore does not fail for its server's health: in every other case, whatever the
programs answer that are run, and whatever the tests come to, it is told to stop and then removed before
the chore ends. A container whose server is not healthy in time stays. -/
theorem integration_releases_iff (m : Machine σ) (silent : Bool) (o : IntegrationOptions)
    (h : o.keepContainers = false) (w : ChoreWorld σ) :
    ∃ ran, ((integration silent o).run m w).2.launches = w.launches ++ ran ∧
      (Released ran ↔ ((integration silent o).run m w).1 ≠
        .error (.unhealthy mockServer.name o.healthTimeout)) := by
  -- it is enough to know what the chore comes to
  suffices hc : ∃ result ran w', Comes m (integration silent o) w result ran w' ∧
      (Released ran ↔ result ≠ .error (.unhealthy mockServer.name o.healthTimeout)) by
    obtain ⟨result, ran, w', c, hr⟩ := hc
    refine ⟨ran, ?_, ?_⟩
    · rw [c.run, c.launches]
    · rw [c.run]
      exact hr
  obtain ⟨w₁, c₁⟩ := comes_announce m silent [.blue "Integration Tests"] w
  obtain ⟨w₂, c₂⟩ := comes_announce m silent [] w₁
  obtain ⟨chosen, versions, w₃, c₃, hv, he⟩ := comes_chooseRuntime m silent o w₂
  have idle : Idle versions := .of_versions hv
  unfold integration
  cases chosen with
  | error e =>
    obtain ⟨reason, rfl⟩ := he e rfl
    exact ⟨_, _, w₃, c₁.bind (c₂.bind c₃.bind_error), by simp [idle.released]⟩
  | ok runtime =>
  obtain ⟨acquired, ran, w₄, c₄, hacq⟩ := comes_acquire m silent o runtime w₃
  rcases hacq with ⟨ours, rfl, holds⟩ | ⟨e, rfl, hne, idle'⟩ | ⟨rfl, runtime', holds⟩
  · obtain ⟨result, later, w₅, c₅, hne, idle', stopped⟩ := comes_testing m silent h ours w₄
    refine ⟨_, _, w₅, c₁.bind (c₂.bind (c₃.bind (c₄.bind c₅))), ?_⟩
    refine iff_of_true ?_ (hne _ _)
    exact idle.released_append_iff.2 (holds.released idle' stopped)
  · refine ⟨_, _, w₄, c₁.bind (c₂.bind (c₃.bind c₄.bind_error)), ?_⟩
    exact iff_of_true (idle.append idle').released fun h => hne _ _ (Except.error.inj h)
  · refine ⟨_, _, w₄, c₁.bind (c₂.bind (c₃.bind c₄.bind_error)), ?_⟩
    refine iff_of_false ?_ (fun h => h rfl)
    exact fun hr => holds.not_released (idle.released_append_iff.1 hr)

/-! ## Two machines -/

/-- A machine on which runtimes do as they are told, tests fail, and servers are healthy or never are. -/
def machine (healthy : Bool) : Machine Unit where
  launch l s := (.ok ⟨l.command != "cargo", [], []⟩, s)
  probe _ s := (⟨healthy, 0⟩, s)
  pause _ s := (0, s)

theorem isRunning_machine (healthy : Bool) (w : ChoreWorld Unit) :
    (isRunning .docker mockServer.name).run (machine healthy) w =
      (.ok false, w.addLaunch (told .docker ["ps", "-q", "-f", s!"name={mockServer.name}"])
        (.ok ⟨true, [], []⟩)) := by
  have h : blank (Utf8.lenient []) = true := by simp [Utf8.lenient, Utf8.readLeniently, blank]
  show (Except.ok (!blank (Utf8.lenient [])), _) = _
  rw [h]
  rfl

/-- Red tests leave no container. -/
theorem failed_tests_released :
    (⟨false, false, 30⟩ : IntegrationOptions).keepContainers = false ∧
      ((integration true ⟨false, false, 30⟩).run (machine true) (.start ())).1 =
        .error (.tests "The mock-server test suite failed") ∧
      Released ((integration true ⟨false, false, 30⟩).run (machine true) (.start ())).2.launches := by
  have hrun : ((integration true ⟨false, false, 30⟩).run (machine true) (.start ())).1 =
      .error (.tests "The mock-server test suite failed") := by
    have hz : healthyWithin mockServer.healthUrl (Duration.ofSeconds 30).toNanos 0 = _ :=
      healthyWithin_of_lt (by decide)
    show (Program.attempt _ (startMockServer true 30 .docker >>= _ >>= _) _).1 = _
    rw [bind_assoc, startMockServer, bind_assoc, Program.attempt_bind_ok (isRunning_machine true _)]
    simp only [awaitHealth, hz]
    rfl
  refine ⟨rfl, hrun, ?_⟩
  obtain ⟨ran, hl, hr⟩ := integration_releases_iff (machine true) true ⟨false, false, 30⟩ rfl (.start ())
  rw [hl]
  exact hr.2 (by rw [hrun]; exact fun h => nomatch h)

/-- A container whose server is not healthy in time is left behind: it is started, and nothing more is
run. -/
theorem unhealthy_container_left :
    (⟨false, false, 0⟩ : IntegrationOptions).keepContainers = false ∧
      ((integration true ⟨false, false, 0⟩).run (machine false) (.start ())).2.launches.getLast? =
        some (told .docker mockServer.runArguments, .ok ⟨true, [], []⟩) ∧
      ¬ Released ((integration true ⟨false, false, 0⟩).run (machine false) (.start ())).2.launches := by
  have hran : ((integration true ⟨false, false, 0⟩).run (machine false) (.start ())).2.launches =
      [(told .docker ["--version"], .ok ⟨true, [], []⟩),
        (told .docker ["ps", "-q", "-f", s!"name={mockServer.name}"], .ok ⟨true, [], []⟩),
        (told .docker ["stop", mockServer.name], .ok ⟨true, [], []⟩),
        (told .docker ["rm", mockServer.name], .ok ⟨true, [], []⟩),
        (told .docker mockServer.runArguments, .ok ⟨true, [], []⟩)] := by
    have hz : healthyWithin mockServer.healthUrl (Duration.ofSeconds 0).toNanos 0 = .done false :=
      healthyWithin_of_le (by decide)
    show ChoreWorld.launches (Program.attempt _ (startMockServer true 0 .docker >>= _ >>= _) _).2 = _
    rw [bind_assoc, startMockServer, bind_assoc, Program.attempt_bind_ok (isRunning_machine false _)]
    simp only [awaitHealth, hz]
    rfl
  rw [hran]
  refine ⟨rfl, rfl, ?_⟩
  rintro ⟨-, -, -, -, h, -⟩
  obtain ⟨name, -, h⟩ := h .docker ⟨rfl, rfl, _, rfl, rfl⟩
  cases h

end CloudRehearsal.Chore
