import CloudRehearsal.Chore.Integration
import CloudRehearsal.Proofs.HealthWait

/-!
Which programs a chore runs. `Chore.Comes` says what a chore comes to and what it runs on the way, each
program with its answer; the lemmas say so of every step that the chores are made of, in terms of the
answers alone.

Waiting for health and printing run nothing (`comes_awaitHealth`, `comes_say`). What the larger parts run
is known but for the answers: looking for a runtime (`Detected`), and what is left to do after the tests
(`Cleared`).
-/
namespace CloudRehearsal.Chore

open Text
open Container (mockServer)

variable {σ α β : Type} {m : Machine σ} {w w' w'' : ChoreWorld σ}

/-- A program that was run, and what came of it. -/
abbrev Ran := Launch × Except OsError Finished

/-- From `w` the chore comes to `result` and leaves `w'`, and it has run these programs on the way. -/
structure Comes (m : Machine σ) (chore : Chore α) (w : ChoreWorld σ) (result : Except ChoreError α)
    (ran : List Ran) (w' : ChoreWorld σ) : Prop where
  run : chore.run m w = (result, w')
  launches : w'.launches = w.launches ++ ran

namespace Comes

theorem pure (a : α) (w : ChoreWorld σ) : Comes m (Pure.pure a) w (.ok a) [] w :=
  ⟨rfl, (List.append_nil _).symm⟩

theorem throw (e : ChoreError) (w : ChoreWorld σ) :
    Comes m (MonadExcept.throw e : Chore α) w (.error e) [] w :=
  ⟨rfl, (List.append_nil _).symm⟩

theorem bind {p : Chore α} {f : α → Chore β} {a : α} {result : Except ChoreError β}
    {ran ran' : List Ran} (h : Comes m p w (.ok a) ran w') (h' : Comes m (f a) w' result ran' w'') :
    Comes m (p >>= f) w result (ran ++ ran') w'' := by
  refine ⟨?_, ?_⟩
  · rw [run_eq, Program.attempt_bind_ok h.run]
    exact h'.run
  · rw [h'.launches, h.launches, List.append_assoc]

theorem bind_error {p : Chore α} {f : α → Chore β} {e : ChoreError} {ran : List Ran}
    (h : Comes m p w (.error e) ran w') : Comes m (p >>= f) w (.error e) ran w' :=
  ⟨(run_eq _ m w).trans (Program.attempt_bind_error h.run), h.launches⟩

/-- What a clean-up runs comes after what the body has run. -/
theorem thenAlways {body : Chore α} {cleanUp : Chore Unit} {outcome : Except ChoreError α}
    {cleaned : Except ChoreError Unit} {ran ran' : List Ran} (h : Comes m body w outcome ran w')
    (h' : Comes m cleanUp w' cleaned ran' w'') :
    Comes m (thenAlways body cleanUp) w (firstFailure outcome cleaned) (ran ++ ran') w'' := by
  refine ⟨?_, ?_⟩
  · rw [run_eq]
    exact Program.attempt_thenAlways h.run h'.run
  · rw [h'.launches, h.launches, List.append_assoc]

end Comes

variable (m)

/-! ## Single steps -/

theorem comes_say (line : List Span) (w : ChoreWorld σ) : ∃ w', Comes m (say line) w (.ok ()) [] w' :=
  ⟨{ w with printed := w.printed ++ [.line line] }, rfl, (List.append_nil _).symm⟩

theorem comes_announce (silent : Bool) (line : List Span) (w : ChoreWorld σ) :
    ∃ w', Comes m (announce silent line) w (.ok ()) [] w' := by
  cases silent with
  | true => exact ⟨w, .pure () w⟩
  | false => exact comes_say m line w

theorem launches_addLaunch (w : ChoreWorld σ) (l : Launch) (answer : Except OsError Finished) :
    (w.addLaunch l answer).launches = w.launches ++ [(l, answer)] := by
  cases answer with
  | error e => rfl
  | ok finished =>
    show (if l.shown then _ else _ : ChoreWorld σ).launches = _
    split <;> rfl

/-- The answer of the machine to a program that is run. -/
abbrev answered (m : Machine σ) (l : Launch) (w : ChoreWorld σ) : Except OsError Finished :=
  (m.launch l w.machine).1

theorem comes_launch_answered (l : Launch) (w : ChoreWorld σ) :
    ∃ w', Comes m (launch l) w (.ok (answered m l w)) [(l, answered m l w)] w' :=
  ⟨_, rfl, launches_addLaunch _ l _⟩

theorem comes_launch (l : Launch) (w : ChoreWorld σ) :
    ∃ answer w', Comes m (launch l) w (.ok answer) [(l, answer)] w' :=
  ⟨_, comes_launch_answered m l w⟩

theorem comes_launched (answer : Except OsError Finished) (w : ChoreWorld σ) :
    Comes m (launched answer) w (answer.mapError .os) [] w := by
  cases answer with
  | ok finished => exact .pure finished w
  | error e => exact .throw (.os e) w

/-- A program that must be there is run, and what follows goes by how it has finished. -/
theorem comes_launch_bind (l : Launch) {f : Finished → Chore α} {g : Finished → Except ChoreError α}
    (hf : ∀ finished w, ∃ w', Comes m (f finished) w (g finished) [] w') (w : ChoreWorld σ) :
    ∃ w', Comes m (do f (← launched (← launch l))) w ((answered m l w).mapError .os >>= g)
      [(l, answered m l w)] w' := by
  obtain ⟨w', c⟩ := comes_launch_answered m l w
  have c' := comes_launched m (answered m l w) w'
  generalize answered m l w = answer at c c'
  cases answer with
  | error e => exact ⟨w', c.bind c'.bind_error⟩
  | ok finished =>
    obtain ⟨w'', c''⟩ := hf finished w'
    exact ⟨w'', c.bind (c'.bind c'')⟩

/-! ## Containers -/

/-- What is run when a runtime is told something. -/
@[reducible]
def told (runtime : ContainerRuntime) (arguments : List String) : Launch :=
  ⟨runtime.command, arguments, [], false⟩

/-- Runtimes have been asked for their versions in turn, up to the first that answers with success. -/
inductive Detected : List ContainerRuntime → Option ContainerRuntime → List Ran → Prop where
  | missing : Detected [] none []
  | found {runtime : ContainerRuntime} {others : List ContainerRuntime} {finished : Finished}
      (h : finished.success = true) :
      Detected (runtime :: others) (some runtime) [(told runtime ["--version"], .ok finished)]
  | next {runtime : ContainerRuntime} {others : List ContainerRuntime}
      {answer : Except OsError Finished} {found : Option ContainerRuntime} {ran : List Ran}
      (h : ∀ finished, answer = .ok finished → finished.success = false)
      (later : Detected others found ran) :
      Detected (runtime :: others) found ((told runtime ["--version"], answer) :: ran)

theorem Detected.versions {runtimes : List ContainerRuntime} {found : Option ContainerRuntime}
    {ran : List Ran} (h : Detected runtimes found ran) :
    ∀ p ∈ ran, ∃ runtime, p.1 = told runtime ["--version"] := by
  induction h with
  | missing => exact fun _ hp => nomatch hp
  | @found runtime =>
    intro p hp
    rw [List.mem_singleton.1 hp]
    exact ⟨runtime, rfl⟩
  | next _ _ ih =>
    intro p hp
    rcases List.mem_cons.1 hp with rfl | hp
    · exact ⟨_, rfl⟩
    · exact ih p hp

/-- What looking for a runtime comes to. -/
def detection : Option ContainerRuntime → Except ChoreError ContainerRuntime
  | some runtime => .ok runtime
  | none => .error (.noRuntime "Neither docker nor podman found in PATH")

theorem comes_detectAmong (runtimes : List ContainerRuntime) (w : ChoreWorld σ) :
    ∃ found ran w', Comes m (detectAmong runtimes) w (detection found) ran w' ∧
      Detected runtimes found ran := by
  induction runtimes generalizing w with
  | nil => exact ⟨none, [], w, .throw _ w, .missing⟩
  | cons runtime others ih =>
    obtain ⟨answer, w₁, c⟩ := comes_launch m (told runtime ["--version"]) w
    obtain ⟨found, ran, w₂, c', d⟩ := ih w₁
    cases answer with
    | error e => exact ⟨found, _, w₂, c.bind c', .next (fun _ h => nomatch h) d⟩
    | ok finished =>
      by_cases hs : finished.success = true
      · refine ⟨some runtime, [(told runtime ["--version"], .ok finished)], w₁, ?_, .found hs⟩
        rw [← List.append_nil [_]]
        refine c.bind ?_
        show Comes m (if finished.success then _ else _) _ _ _ _
        rw [if_pos hs]
        exact .pure runtime w₁
      · refine ⟨found, _, w₂, c.bind ?_, .next ?_ d⟩
        · show Comes m (if finished.success then _ else _) _ _ _ _
          rw [if_neg hs]
          exact c'
        · rintro _ ⟨⟩
          exact Bool.eq_false_iff.2 hs

/-- A runtime's list of containers under a name, as it is understood. -/
def listed (answer : Except OsError Finished) : Except ChoreError Bool :=
  answer.mapError .os >>= fun finished => .ok (!blank (Utf8.lenient finished.output))

@[simp] theorem listed_error (e : OsError) : listed (.error e) = .error (.os e) := rfl

@[simp] theorem listed_ok (finished : Finished) :
    listed (.ok finished) = .ok (!blank (Utf8.lenient finished.output)) := rfl

theorem comes_isRunning (runtime : ContainerRuntime) (name : String) (w : ChoreWorld σ) :
    let l := told runtime ["ps", "-q", "-f", s!"name={name}"]
    ∃ w', Comes m (isRunning runtime name) w (listed (answered m l w)) [(l, answered m l w)] w' :=
  comes_launch_bind m _ (fun _ w => ⟨w, .pure _ w⟩) w

/-- A container is stopped and removed, whatever the runtime answers. -/
theorem comes_stop (runtime : ContainerRuntime) (name : String) (w : ChoreWorld σ) :
    ∃ stopped removed w', Comes m (stop runtime name) w (.ok ())
      [(told runtime ["stop", name], stopped), (told runtime ["rm", name], removed)] w' := by
  obtain ⟨stopped, w₁, c₁⟩ := comes_launch m (told runtime ["stop", name]) w
  obtain ⟨removed, w₂, c₂⟩ := comes_launch m (told runtime ["rm", name]) w₁
  exact ⟨stopped, removed, w₂, c₁.bind (c₂.bind (.pure () w₂))⟩

/-- The answer to the command that starts a container, as it is understood. -/
def begun (c : Container) (answer : Except OsError Finished) : Except ChoreError Unit :=
  answer.mapError .os >>= fun finished =>
    if finished.success then .ok ()
    else .error (.container s!"Failed to start container '{c.name}': {Utf8.lenient finished.errors}")

@[simp] theorem begun_of_error (c : Container) (e : OsError) : begun c (.error e) = .error (.os e) := rfl

@[simp] theorem begun_of_ok (c : Container) (finished : Finished) :
    begun c (.ok finished) = if finished.success then .ok () else .error (.container
      s!"Failed to start container '{c.name}': {Utf8.lenient finished.errors}") := rfl

theorem begun_eq_ok_iff {c : Container} {answer : Except OsError Finished} :
    begun c answer = .ok () ↔ ∃ finished, answer = .ok finished ∧ finished.success = true := by
  cases answer with
  | error e =>
    refine ⟨fun h => ?_, fun ⟨_, h, _⟩ => ?_⟩ <;> cases h
  | ok finished =>
    show (if finished.success then _ else _) = _ ↔ _
    split
    next h => exact ⟨fun _ => ⟨finished, rfl, h⟩, fun _ => rfl⟩
    next h =>
      refine ⟨fun hb => (nomatch hb), fun ⟨_, hf, hs⟩ => ?_⟩
      exact absurd (Except.ok.inj hf ▸ hs) h

/-- A container of the same name is stopped and removed before one is started. -/
theorem comes_start (runtime : ContainerRuntime) (c : Container) (w : ChoreWorld σ) :
    ∃ stopped removed answer w', Comes m (start runtime c) w (begun c answer)
      [(told runtime ["stop", c.name], stopped), (told runtime ["rm", c.name], removed),
        (told runtime c.runArguments, answer)] w' := by
  obtain ⟨stopped, removed, w₁, c₁⟩ := comes_stop m runtime c.name w
  obtain ⟨w₂, c₂⟩ := comes_launch_bind m (told runtime c.runArguments)
    (f := fun finished => if finished.success then pure () else throw (.container
      s!"Failed to start container '{c.name}': {Utf8.lenient finished.errors}"))
    (g := fun finished => if finished.success then .ok () else .error (.container
      s!"Failed to start container '{c.name}': {Utf8.lenient finished.errors}"))
    (fun finished w => by
      split
      · exact ⟨w, .pure () w⟩
      · exact ⟨w, .throw _ w⟩) w₁
  exact ⟨stopped, removed, _, w₂, c₁.bind c₂⟩

/-! ## Health -/

theorem comes_awaitHealth (c : Container) (timeout : Duration) (w : ChoreWorld σ) :
    ∃ (healthy : Bool) (w' : ChoreWorld σ), Comes m (awaitHealth c timeout) w
      (if healthy then .ok () else .error (.unhealthy c.name timeout.seconds)) [] w' := by
  obtain ⟨asked, healthy, s', hrun, -⟩ := run_awaitHealth m c timeout w
  exact ⟨healthy, _, hrun, (List.append_nil _).symm⟩

/-! ## The parts of the chores -/

/-- What the run of the tests comes to: whether they pass, if they could be run. -/
def tested (answer : Except OsError Finished) : Except ChoreError Bool :=
  answer.mapError .os >>= fun finished => .ok finished.success

theorem comes_stopMockServer (silent : Bool) (runtime : ContainerRuntime) (w : ChoreWorld σ) :
    ∃ stopped removed w', Comes m (stopMockServer silent runtime) w (.ok ())
      [(told runtime ["stop", mockServer.name], stopped),
        (told runtime ["rm", mockServer.name], removed)] w' := by
  obtain ⟨w₁, c₁⟩ := comes_announce m silent [.blue "🐳", .plain " Stopping moto container..."] w
  obtain ⟨stopped, removed, w₂, c₂⟩ := comes_stop m runtime mockServer.name w₁
  obtain ⟨w₃, c₃⟩ := comes_announce m silent [.green "✅", .plain " moto container stopped"] w₂
  exact ⟨stopped, removed, w₃, c₁.bind (c₂.bind c₃)⟩

/-- Red tests are an error of their own. -/
theorem comes_conclude (passed : Bool) (w : ChoreWorld σ) :
    ∃ w', Comes m (conclude passed) w
      (if passed then .ok () else .error (.tests "The mock-server test suite failed")) [] w' := by
  obtain ⟨w₁, c₁⟩ := comes_say m [] w
  cases passed with
  | true =>
    obtain ⟨w₂, c₂⟩ :=
      comes_say m [.green "✅", .plain " ", .green "All integration tests passed!"] w₁
    exact ⟨w₂, c₁.bind c₂⟩
  | false =>
    obtain ⟨w₂, c₂⟩ :=
      comes_say m [.red "❌", .plain " ", .red "Some integration tests failed"] w₁
    exact ⟨w₂, c₁.bind (c₂.bind (.throw _ w₂))⟩

/-! ## Testing -/

/-- What is run after the tests: what was started is stopped and removed, unless it is to be kept. -/
def Cleared (o : IntegrationOptions) : Option ContainerRuntime → List Ran → Prop
  | none, after => after = []
  | some runtime, after =>
    if o.keepContainers then after = []
    else ∃ stopped removed, after = [(told runtime ["stop", mockServer.name], stopped),
      (told runtime ["rm", mockServer.name], removed)]

theorem comes_clearing (silent : Bool) (o : IntegrationOptions) (ours : Option ContainerRuntime)
    (w : ChoreWorld σ) :
    ∃ after w', Comes m (release silent o ours) w (.ok ()) after w' ∧ Cleared o ours after := by
  cases ours with
  | none => exact ⟨[], w, .pure () w, rfl⟩
  | some runtime =>
    unfold release Cleared
    cases o.keepContainers with
    | true =>
      obtain ⟨w', c⟩ := comes_announce m silent
        [.yellow "⚠️", .plain " Containers left running (--keep-containers)"] w
      exact ⟨[], w', c, rfl⟩
    | false =>
      obtain ⟨stopped, removed, w', c⟩ := comes_stopMockServer m silent runtime w
      exact ⟨_, w', c, stopped, removed, rfl⟩

/-- What the chore comes to by the run of the tests. -/
def concluded (answer : Except OsError Finished) : Except ChoreError Unit :=
  tested answer >>= fun passed =>
    if passed then .ok () else .error (.tests "The mock-server test suite failed")

@[simp] theorem concluded_error (e : OsError) : concluded (.error e) = .error (.os e) := rfl

@[simp] theorem concluded_ok (finished : Finished) :
    concluded (.ok finished) =
      if finished.success then .ok () else .error (.tests "The mock-server test suite failed") := rfl

end CloudRehearsal.Chore
