import CloudRehearsal.Chore.Errand
import CloudRehearsal.Proofs.Launches

/-!
Two runs of chores side by side. `Twin m m' p q` says that `p` on one machine and `q` on the other come
to the same result and run the same programs, from any worlds that agree on these so far. What is printed
does not count, and the machines may differ in what they answer to commands that stop or remove
containers, as nobody looks at these answers.

There is one rule for each step of a chore. By them every chore is its own twin, silent or not
(`Chore.twin_integration`, `ErrandInvocation.twin_chore`).
-/
namespace CloudRehearsal

open Container (mockServer)

variable {σ α β : Type}

/-! ## Machines and worlds -/

/-- A container is stopped or removed. -/
def Launch.clears (l : Launch) : Bool :=
  l.arguments.head? == some "stop" || l.arguments.head? == some "rm"

/-- The machine with other answers to the commands that stop or remove containers. -/
def Machine.answering (m : Machine σ) (reply : Launch → σ → Except OsError Finished) : Machine σ :=
  { m with launch := fun l s => if l.clears then (reply l s, (m.launch l s).2) else m.launch l s }

/-- Machines that do the same, and answer the same but to the commands that stop or remove containers. -/
structure Machine.Twins (m m' : Machine σ) : Prop where
  answer : ∀ l s, l.clears = false → (m.launch l s).1 = (m'.launch l s).1
  state : ∀ l s, (m.launch l s).2 = (m'.launch l s).2
  probe : m.probe = m'.probe
  pause : m.pause = m'.pause

theorem Machine.Twins.refl (m : Machine σ) : m.Twins m := ⟨fun _ _ _ => rfl, fun _ _ => rfl, rfl, rfl⟩

theorem Machine.twins_answering (m : Machine σ) (reply : Launch → σ → Except OsError Finished) :
    m.Twins (m.answering reply) where
  answer l s h := by simp [answering, h]
  state l s := by
    simp only [answering]
    split <;> rfl
  probe := rfl
  pause := rfl

namespace ChoreWorld

/-- The same state of the machine, after the same programs and the same questions for health. -/
structure Twins (w w' : ChoreWorld σ) : Prop where
  machine : w.machine = w'.machine
  launches : w.launches.map Prod.fst = w'.launches.map Prod.fst
  probes : w.probes = w'.probes

theorem Twins.refl (w : ChoreWorld σ) : w.Twins w := ⟨rfl, rfl, rfl⟩

/-- Apart from the launch itself, only what is shown goes into the account. -/
theorem machine_addLaunch (w : ChoreWorld σ) (l : Launch) (answer : Except OsError Finished) :
    (w.addLaunch l answer).machine = w.machine := by
  cases answer with
  | error e => rfl
  | ok finished =>
    show (if l.shown then _ else _ : ChoreWorld σ).machine = _
    split <;> rfl

theorem probes_addLaunch (w : ChoreWorld σ) (l : Launch) (answer : Except OsError Finished) :
    (w.addLaunch l answer).probes = w.probes := by
  cases answer with
  | error e => rfl
  | ok finished =>
    show (if l.shown then _ else _ : ChoreWorld σ).probes = _
    split <;> rfl

end ChoreWorld

namespace Chore

/-! ## Twin chores -/

/-- Side by side, the chores come to the same result and run the same programs. -/
def Twin (m m' : Machine σ) (p q : Chore α) : Prop :=
  ∀ w w', w.Twins w' → (p.run m w).1 = (q.run m' w').1 ∧ (p.run m w).2.Twins (q.run m' w').2

variable {m m' : Machine σ}

namespace Twin

theorem pure (a : α) : Twin m m' (Pure.pure a) (Pure.pure a) := fun _ _ hw => ⟨rfl, hw⟩

theorem throw (e : ChoreError) : Twin m m' (MonadExcept.throw e : Chore α) (MonadExcept.throw e) :=
  fun _ _ hw => ⟨rfl, hw⟩

theorem lift {p q : Program ChoreAct.Answer α} (h : ∀ w w', w.Twins w' →
    (p.run (ChoreWorld.respond m) w).1 = (q.run (ChoreWorld.respond m') w').1 ∧
      (p.run (ChoreWorld.respond m) w).2.Twins (q.run (ChoreWorld.respond m') w').2) :
    Twin m m' (ExceptT.lift p) (ExceptT.lift q) := by
  intro w w' hw
  obtain ⟨hr, hw⟩ := h w w' hw
  rw [run_eq, run_eq, Program.attempt_lift, Program.attempt_lift]
  exact ⟨congrArg Except.ok hr, hw⟩

theorem bind {p q : Chore α} {f g : α → Chore β} (h : Twin m m' p q)
    (hf : ∀ a, Twin m m' (f a) (g a)) : Twin m m' (p >>= f) (q >>= g) := by
  intro w w' hw
  obtain ⟨hr, hw⟩ := h w w' hw
  rcases hp : p.run m w with ⟨r, w₁⟩
  rcases hq : q.run m' w' with ⟨r', w₁'⟩
  rw [hp, hq] at hr hw
  obtain rfl : r = r' := hr
  rw [run_eq, run_eq]
  cases r with
  | error e =>
    rw [Program.attempt_bind_error hp, Program.attempt_bind_error hq]
    exact ⟨rfl, hw⟩
  | ok a =>
    rw [Program.attempt_bind_ok hp, Program.attempt_bind_ok hq]
    exact hf a w₁ w₁' hw

theorem thenAlways {body body' : Chore α} {cleanUp cleanUp' : Chore Unit} (h : Twin m m' body body')
    (hc : Twin m m' cleanUp cleanUp') :
    Twin m m' (thenAlways body cleanUp) (thenAlways body' cleanUp') := by
  intro w w' hw
  obtain ⟨hr, hw⟩ := h w w' hw
  rcases hp : body.run m w with ⟨r, w₁⟩
  rcases hq : body'.run m' w' with ⟨r', w₁'⟩
  rw [hp, hq] at hr hw
  obtain rfl : r = r' := hr
  obtain ⟨hr, hw⟩ := hc w₁ w₁' hw
  rw [run_eq, run_eq, Program.attempt_thenAlways hp rfl, Program.attempt_thenAlways hq rfl]
  exact ⟨congrArg (firstFailure r) hr, hw⟩

end Twin

/-! ## Single steps -/

/-- Saying something or not makes no difference. -/
theorem twin_announce (silent silent' : Bool) (line line' : List Span) :
    Twin m m' (announce silent line) (announce silent' line') := by
  intro w w' hw
  refine ⟨?_, ?_⟩
  · cases silent <;> cases silent' <;> rfl
  · cases silent <;> cases silent' <;> exact ⟨hw.machine, hw.launches, hw.probes⟩

theorem twin_say (line : List Span) : Twin m m' (say line) (say line) :=
  twin_announce false false line line

theorem twin_launched (answer : Except OsError Finished) :
    Twin m m' (launched answer) (launched answer) := by
  cases answer with
  | ok finished => exact .pure finished
  | error e => exact .throw (.os e)

variable (h : m.Twins m')
include h

theorem twins_launch (l : Launch) {w w' : ChoreWorld σ} (hw : w.Twins w') :
    ((launch l).run m w).2.Twins ((launch l).run m' w').2 := by
  refine ⟨?_, ?_, ?_⟩
  · show (ChoreWorld.addLaunch _ _ _).machine = (ChoreWorld.addLaunch _ _ _).machine
    rw [ChoreWorld.machine_addLaunch, ChoreWorld.machine_addLaunch]
    show (m.launch l w.machine).2 = (m'.launch l w'.machine).2
    rw [h.state, hw.machine]
  · show (ChoreWorld.addLaunch _ _ _).launches.map _ = (ChoreWorld.addLaunch _ _ _).launches.map _
    rw [launches_addLaunch, launches_addLaunch, List.map_append, List.map_append]
    exact congrArg (· ++ [l]) hw.launches
  · show (ChoreWorld.addLaunch _ _ _).probes = (ChoreWorld.addLaunch _ _ _).probes
    rw [ChoreWorld.probes_addLaunch, ChoreWorld.probes_addLaunch]
    exact hw.probes

theorem twin_launch {l : Launch} (hl : l.clears = false) : Twin m m' (launch l) (launch l) := by
  intro w w' hw
  refine ⟨?_, twins_launch h l hw⟩
  show Except.ok (m.launch l w.machine).1 = Except.ok (m'.launch l w'.machine).1
  rw [h.answer l _ hl, hw.machine]

/-- A program whose answer nobody looks at. -/
theorem twin_launch_ignored (l : Launch) {p q : Chore α} (hp : Twin m m' p q) :
    Twin m m' (launch l >>= fun _ => p) (launch l >>= fun _ => q) := by
  intro w w' hw
  rw [run_eq, run_eq, Program.attempt_bind_ok (show (launch l).run m w = (.ok _, _) from rfl),
    Program.attempt_bind_ok (show (launch l).run m' w' = (.ok _, _) from rfl)]
  exact hp _ _ (twins_launch h l hw)

/-- Questions for health are answered by the machine alone. -/
theorem twins_healthyWithin (url : String) (timeout elapsed : Nat) {w w' : ChoreWorld σ}
    (hw : w.Twins w') :
    (Program.run (ChoreWorld.respond m) (healthyWithin url timeout elapsed) w).1 =
        (Program.run (ChoreWorld.respond m') (healthyWithin url timeout elapsed) w').1 ∧
      (Program.run (ChoreWorld.respond m) (healthyWithin url timeout elapsed) w).2.Twins
        (Program.run (ChoreWorld.respond m') (healthyWithin url timeout elapsed) w').2 := by
  induction elapsed using healthyWithin.induct timeout generalizing w w' with
  | case1 elapsed hlt ih =>
    have hprobe : m.probe url w.machine = m'.probe url w'.machine := by rw [h.probe, hw.machine]
    have hprobes : w.probes ++ [url] = w'.probes ++ [url] := congrArg (· ++ [url]) hw.probes
    rw [healthyWithin_of_lt hlt, run_ask_probe, run_ask_probe, hprobe]
    split
    · exact ⟨rfl, rfl, hw.launches, hprobes⟩
    · rw [run_ask_pause, run_ask_pause, h.pause]
      exact ih _ _ ⟨rfl, hw.launches, hprobes⟩
  | case2 elapsed hge =>
    rw [healthyWithin_of_le (Nat.not_lt.1 hge)]
    exact ⟨rfl, hw⟩

theorem twin_awaitHealth (c : Container) (timeout : Duration) :
    Twin m m' (awaitHealth c timeout) (awaitHealth c timeout) := by
  unfold awaitHealth
  refine (Twin.lift fun _ _ hw => twins_healthyWithin h c.healthUrl timeout.toNanos 0 hw).bind
    fun healthy => ?_
  cases healthy with
  | true => exact .pure ()
  | false => exact .throw _

/-! ## The parts of the chores -/

theorem twin_detectAmong (runtimes : List ContainerRuntime) :
    Twin m m' (detectAmong runtimes) (detectAmong runtimes) := by
  induction runtimes with
  | nil => exact .throw _
  | cons runtime others ih =>
    refine (twin_launch h (by simp [Launch.clears])).bind fun answer => ?_
    split
    · split
      · exact .pure runtime
      · exact ih
    · exact ih

theorem twin_isRunning (runtime : ContainerRuntime) (name : String) :
    Twin m m' (isRunning runtime name) (isRunning runtime name) :=
  (twin_launch h (by simp [Launch.clears])).bind fun answer =>
    (twin_launched answer).bind fun _ => .pure _

theorem twin_stop (runtime : ContainerRuntime) (name : String) :
    Twin m m' (stop runtime name) (stop runtime name) :=
  twin_launch_ignored h _ (twin_launch_ignored h _ (.pure ()))

theorem twin_start (runtime : ContainerRuntime) (c : Container) :
    Twin m m' (start runtime c) (start runtime c) := by
  refine (twin_stop h runtime c.name).bind fun _ => ?_
  refine (twin_launch h (by simp [Launch.clears, Container.runArguments])).bind fun answer => ?_
  refine (twin_launched answer).bind fun finished => ?_
  split
  · exact .pure ()
  · exact .throw _

variable (silent silent' : Bool)

theorem twin_startMockServer (seconds : Nat) (runtime : ContainerRuntime) :
    Twin m m' (startMockServer silent seconds runtime) (startMockServer silent' seconds runtime) := by
  refine (twin_isRunning h runtime mockServer.name).bind fun found => ?_
  cases found with
  | true => exact (twin_announce _ _ _ _).bind fun _ => .pure false
  | false =>
    exact (twin_announce _ _ _ _).bind fun _ => (twin_start h runtime mockServer).bind fun _ =>
      (twin_announce _ _ _ _).bind fun _ => (twin_awaitHealth h mockServer _).bind fun _ =>
        (twin_announce _ _ _ _).bind fun _ => .pure true

theorem twin_stopMockServer (runtime : ContainerRuntime) :
    Twin m m' (stopMockServer silent runtime) (stopMockServer silent' runtime) :=
  (twin_announce _ _ _ _).bind fun _ => (twin_stop h runtime mockServer.name).bind fun _ =>
    twin_announce _ _ _ _

theorem twin_runTests (url : String) :
    Twin m m' (runTests silent url) (runTests silent' url) := by
  refine (twin_announce _ _ _ _).bind fun _ => ?_
  refine (twin_launch h (by simp [Launch.clears, testCommand])).bind fun answer => ?_
  refine (twin_launched answer).bind fun finished => ?_
  split
  · exact (twin_announce _ _ _ _).bind fun _ => .pure true
  · exact (twin_say _).bind fun _ => .pure false

theorem twin_chooseRuntime (o : IntegrationOptions) :
    Twin m m' (chooseRuntime silent o) (chooseRuntime silent' o) := by
  unfold chooseRuntime
  split
  · exact (twin_announce _ _ _ _).bind fun _ => .pure none
  · exact (twin_detectAmong h ContainerRuntime.all).bind fun runtime => .pure (some runtime)

theorem twin_acquire (o : IntegrationOptions) (runtime : Option ContainerRuntime) :
    Twin m m' (acquire silent o runtime) (acquire silent' o runtime) := by
  cases runtime with
  | none => exact .pure none
  | some runtime =>
    exact (twin_startMockServer h silent silent' o.healthTimeout runtime).bind fun _ => .pure _

theorem twin_release (o : IntegrationOptions) (ours : Option ContainerRuntime) :
    Twin m m' (release silent o ours) (release silent' o ours) := by
  cases ours with
  | none => exact .pure ()
  | some runtime =>
    unfold release
    cases o.keepContainers with
    | true => exact twin_announce _ _ _ _
    | false => exact twin_stopMockServer h silent silent' runtime

omit h in
theorem twin_conclude (passed : Bool) : Twin m m' (conclude passed) (conclude passed) := by
  refine (twin_say _).bind fun _ => ?_
  cases passed with
  | true => exact twin_say _
  | false => exact (twin_say _).bind fun _ => .throw _

theorem twin_integration (o : IntegrationOptions) :
    Twin m m' (integration silent o) (integration silent' o) :=
  (twin_announce _ _ _ _).bind fun _ => (twin_announce _ _ _ _).bind fun _ =>
    (twin_chooseRuntime h silent silent' o).bind fun runtime =>
      (twin_acquire h silent silent' o runtime).bind fun ours =>
        ((twin_runTests h silent silent' mockServer.url).thenAlways
          (twin_release h silent silent' o ours)).bind fun passed => twin_conclude passed

end Chore

/-- Every chore that can be asked for is its own twin, silent or not. -/
theorem ErrandInvocation.twin_chore {m m' : Machine σ} (h : m.Twins m') (silent silent' : Bool)
    (errand : Errand) :
    Chore.Twin m m' (chore ⟨silent, errand⟩) (chore ⟨silent', errand⟩) := by
  have detected : Chore.Twin m m' Chore.detectRuntime Chore.detectRuntime :=
    Chore.twin_detectAmong h ContainerRuntime.all
  cases errand with
  | startServer timeout =>
    exact detected.bind fun runtime =>
      (Chore.twin_startMockServer h silent silent' timeout runtime).bind fun _ => .pure ()
  | stopServer => exact detected.bind fun runtime => Chore.twin_stopMockServer h silent silent' runtime
  | integration options => exact Chore.twin_integration h silent silent' options

end CloudRehearsal
