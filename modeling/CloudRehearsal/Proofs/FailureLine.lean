import CloudRehearsal.Proofs.ExitStatus

/-!
The line about a failed run. It is to say once what went wrong: what was being done, and the error. An
error that wraps another says so already in its own words, and the line goes on with the words of the
other one (`Run.failureLine_eq_once_iff`). The errors of samples wrap nothing, so the line says every cause
once exactly when the endpoint passes its check (`Invocation.failure_said_once_iff`).
-/
namespace CloudRehearsal

variable {σ : Type}

/-! ## Errors that wrap others -/

namespace ClientError

theorem sources_ofSend (operation : String) (e : SendError) : (ofSend operation e).sources = [] := by
  cases e <;> rfl

theorem sources_ofException {names : List String} {make : String → ClientError}
    (h : ∀ words, (make words).sources = []) (operation : String) (e : SendError) :
    (ofException names make operation e).sources = [] := by
  unfold ofException
  split
  · exact h _
  · exact sources_ofSend _ _

theorem sources_ofSendEmail (source : String) (e : SendError) : (ofSendEmail source e).sources = [] := by
  unfold ofSendEmail
  split
  · split <;> rfl
  · exact sources_ofSend _ _

end ClientError

theorem Request.sources_explain (r : Request) (e : SendError) : (r.explain e).sources = [] := by
  have made {names : List String} {make : String → ClientError} {operation : String}
      (h : ∀ words, (make words).sources = []) :
      (ClientError.ofException names make operation e).sources = [] :=
    ClientError.sources_ofException h operation e
  cases r with
  | createTable | describeTable | createBucket | getObject | adminCreateUser => exact made fun _ => rfl
  | sendEmail => exact ClientError.sources_ofSendEmail _ e
  | _ => exact ClientError.sources_ofSend _ e

theorem Body.sources_of_unread? {body : Body} {e : ClientError} (h : body.unread? = some e) :
    e.sources = [] := by
  unfold unread? at h
  split at h
  · cases h
    rfl
  · split at h <;> cases h
    rfl

theorem Request.sources_of_lack? {r : Request} {o : r.Output} {e : ClientError}
    (h : r.lack? o = some e) : e.sources = [] := by
  unfold lack? at h
  split at h <;> first | exact Body.sources_of_unread? h | cases h <;> rfl

theorem Exchange.sources_of_error? {x : Exchange} {e : ClientError} (h : x.error? = some e) :
    e.sources = [] := by
  unfold error? at h
  split at h
  · exact Request.sources_of_lack? h
  · cases h
    exact Request.sources_explain _ _

namespace Sample

variable (clients : Clients) (server : Server σ) (ids : Nat → Uuid)

theorem sources_of_alone {s : Service} {w : World σ} {e : ClientError}
    (h : (alone clients server ids s w).1 = .error e) : e.sources = [] := by
  obtain ⟨result, sent, w', hrun, -, hends⟩ := (course_run clients s).run server ids w.afresh
  unfold alone at h
  rw [hrun] at h
  obtain rfl : result = .error e := h
  obtain ⟨-, x, -, -, -, hx⟩ := hends
  exact Exchange.sources_of_error? hx

theorem sources_of_tally {ss : List Service} {w : World σ} {e : ClientError}
    (h : (tally (inTurn clients server ids ss w)).1 = .error e) : e.sources = [] := by
  induction ss generalizing w with
  | nil => cases h
  | cons s ss ih =>
    rw [inTurn] at h
    generalize ha : alone clients server ids s w = one at h
    obtain ⟨fault | report, own⟩ := one
    · cases h
      exact sources_of_alone clients server ids (congrArg Prod.fst ha)
    · rw [tally] at h
      cases hl : (tally (inTurn clients server ids ss own)).1 with
      | error fault =>
        rw [hl] at h
        cases h
        exact ih hl
      | ok reports =>
        rw [hl] at h
        cases h

end Sample

/-! ## The line -/

namespace Run

/-- What comes before the error in the line about a failure. -/
def context (doing : Option String) : String :=
  match doing with
  | some doing => s!"{doing}: "
  | none => ""

theorem intercalate_cons (separator t : String) (ts : List String) :
    separator.intercalate (t :: ts) = t ++ String.join (ts.map (separator ++ ·)) := by
  induction ts generalizing t with
  | nil => simp
  | cons u ts ih => simp [ih, String.append_assoc]

/-- The line about a failure goes on with the errors that the error wraps. -/
theorem failureLine_failed (doing : Option String) (e : ClientError) :
    (RunResult.failed doing e).failureLine =
      some ("Error: " ++ context doing ++ e.display ++ String.join (e.sources.map (": " ++ ·))) := by
  cases doing <;>
    simp [RunResult.failureLine, context, intercalate_cons, String.append_assoc, toString]

/-- It says what went wrong once exactly when the error wraps nothing. -/
theorem failureLine_eq_once_iff (doing : Option String) (e : ClientError) :
    (RunResult.failed doing e).failureLine = some ("Error: " ++ context doing ++ e.display) ↔
      e.sources = [] := by
  rw [failureLine_failed, Option.some_inj]
  cases hs : e.sources with
  | nil => simp
  | cons source sources => simp

/-- A run fails for the fault of its endpoint, or for a sample's error. -/
theorem session_failed {i : Invocation} {server : Server σ} {ids : Nat → Uuid} {w : World σ}
    {doing : Option String} {e : ClientError}
    (h : ((session i).run server ids w).1 = .failed doing e) :
    (∃ fault, i.endpoint.check = .error fault ∧ doing = some "Failed to configure clients" ∧
      e = .config fault) ∨
    i.endpoint.check = .ok () ∧ (∃ target, i.command = .sample target ∧ doing = target.doing) ∧
      e.sources = [] := by
  cases hc : i.endpoint.check with
  | error fault =>
    obtain ⟨w', hrun, -⟩ := run_session_refused server ids w hc
    rw [hrun] at h
    cases h
    exact .inl ⟨fault, rfl, rfl, rfl⟩
  | ok accepted =>
    refine .inr ⟨rfl, ?_⟩
    rw [run_session server ids w hc] at h
    cases hcommand : i.command with
    | check =>
      rw [hcommand, run_check] at h
      cases h
    | sample target =>
      rw [hcommand] at h
      have hsamples := run_samples_doing server ids w ⟨i.endpoint, hc⟩ target
      have hfailed := hsamples.symm.trans h
      cases ht : (Sample.tally
          (Sample.inTurn ⟨i.endpoint, hc⟩ server ids target.services w)).1 with
      | ok reports =>
        rw [ht] at hfailed
        cases hfailed
      | error fault =>
        rw [ht] at hfailed
        cases hfailed
        exact ⟨⟨target, rfl, rfl⟩, Sample.sources_of_tally _ server ids ht⟩

/-- What is written where errors go before the line about a failure: where requests go, and the log. -/
def preamble (env : Environment) (i : Invocation) (events : List Log.Event) : List String :=
  (if i.quiet then [] else [i.endpoint.display]) ++
    (events.filter (Log.Filter.ofVariable env.logFilter (defaultFilter i.quiet)).admits).map (·.line)

end Run

namespace Invocation

/-- What is being done when the run fails. -/
def doing (i : Invocation) : Option String :=
  match i.endpoint.check, i.command with
  | .error _, _ => some "Failed to configure clients"
  | .ok _, .sample target => target.doing
  | .ok _, .check => none

/-- **A failed run says once what went wrong, but for its configuration.** Whatever the command line and
whatever the server says, when a run fails it ends with one line about it. The line is what was being done
and the error, and nothing more, exactly when the endpoint passes its check. When it does not, its fault
comes a second time. -/
theorem failure_said_once_iff (i : Invocation) (env : Environment) (server : Server σ)
    (ids : Nat → Uuid) (service : σ) {doing : Option String} {e : ClientError}
    (h : ((Run.session i).run server ids (.start service)).1 = .failed doing e) :
    ∃ line, (i.run env server ids service).1.errors =
        Run.lines (Run.preamble env i (i.run env server ids service).2.events ++ [line]) ∧
      (line = "Error: " ++ Run.context i.doing ++ e.display ↔ i.endpoint.check = .ok ()) ∧
      ∀ fault, i.endpoint.check = .error fault → e = .config fault ∧
        line = "Error: " ++ Run.context i.doing ++ e.display ++ ": " ++ fault.message := by
  have herrors : (i.run env server ids service).1.errors = Run.lines
      (Run.preamble env i (i.run env server ids service).2.events ++
        ((Run.session i).run server ids (.start service)).1.failureLine.toList) := rfl
  have hline := Run.failureLine_failed doing e
  have honce := Run.failureLine_eq_once_iff doing e
  rw [h, hline] at herrors
  rw [hline, Option.some_inj] at honce
  refine ⟨_, herrors, ?_⟩
  obtain ⟨fault, hc, rfl, rfl⟩ | ⟨hc, ⟨target, hcommand, rfl⟩, hsources⟩ := Run.session_failed h
  · have hdoing : i.doing = some "Failed to configure clients" := by simp [Invocation.doing, hc]
    rw [hdoing, honce, hc]
    refine ⟨iff_of_false (by simp [ClientError.sources]) (by simp), ?_⟩
    rintro _ ⟨⟩
    exact ⟨rfl, by simp [ClientError.sources, String.append_assoc]⟩
  · have hdoing : i.doing = target.doing := by simp [Invocation.doing, hc, hcommand]
    rw [hdoing, honce, hc]
    exact ⟨iff_of_true hsources rfl, fun _ hfault => nomatch hfault⟩

/-! ## Two quiet runs -/

/-- A quiet run on this machine. -/
def quietly (region : String) (command : Command) : Invocation :=
  ⟨"http://[::1]:5000", region, none, .default, true, command⟩

/-- A sample that reaches no server says so once. -/
theorem unreachable_said_once :
    ∃ e, ((Run.session (quietly "us-east-1" (.sample (.one .notification)))).run
        (Server.unreachable Unit) (fun _ => 0) (.start ())).1 =
          .failed (some "Notification sample failed") e ∧
      ∃ before, ((quietly "us-east-1" (.sample (.one .notification))).run ⟨none, none, none⟩
        (Server.unreachable Unit) (fun _ => 0) ()).1.errors =
          Run.lines (before ++ ["Error: Notification sample failed: " ++ e.display]) := by
  have accepted : (quietly "us-east-1" (.sample (.one .notification))).endpoint.check = .ok () :=
    Endpoint.accepted_of_isOk (by decide +kernel)
  have hfailed : ((Run.session (quietly "us-east-1" (.sample (.one .notification)))).run
      (Server.unreachable Unit) (fun _ => 0) (.start ())).1 = .failed (some "Notification sample failed")
        (.dispatch "CreateTopic" (LostCall.report ⟨.connectIo, "connection refused"⟩)) := by
    rw [Run.run_session _ _ _ accepted]
    rfl
  have hcontext : Run.context (quietly "us-east-1" (.sample (.one .notification))).doing =
      "Notification sample failed: " := by
    rw [doing, accepted]
    rfl
  obtain ⟨line, herrors, honce, -⟩ := failure_said_once_iff _ ⟨none, none, none⟩ _ _ _ hfailed
  rw [honce.2 accepted, hcontext] at herrors
  exact ⟨_, hfailed, _, herrors⟩

/-- A blank region is complained about twice. -/
theorem blank_region_said_twice :
    ∃ e, ((Run.session (quietly " " .check)).run (Server.unreachable Unit) (fun _ => 0) (.start ())).1 =
        .failed (some "Failed to configure clients") e ∧
      ((quietly " " .check).run ⟨none, none, none⟩ (Server.unreachable Unit) (fun _ => 0) ()).1.errors =
        "Error: Failed to configure clients: Invalid configuration: Region cannot be empty: " ++
          "Region cannot be empty\n" ∧
      ((quietly " " .check).run ⟨none, none, none⟩ (Server.unreachable Unit) (fun _ => 0) ()).1.errors ≠
        Run.lines ["Error: " ++ Run.context (quietly " " .check).doing ++ e.display] := by
  have refused : (quietly " " .check).endpoint.check = .error .emptyRegion := by decide +kernel
  have hrun : (Run.session (quietly " " .check)).run (Server.unreachable Unit) (fun _ => 0) (.start ()) =
      (.failed (some "Failed to configure clients") (.config .emptyRegion), .start ()) := by
    unfold Run.session Clients.connect
    rw [Clients.ofEndpoint_error refused]
    rfl
  have herrors : ((quietly " " .check).run ⟨none, none, none⟩ (Server.unreachable Unit)
      (fun _ => 0) ()).1.errors =
        "Error: Failed to configure clients: Invalid configuration: Region cannot be empty: " ++
          "Region cannot be empty\n" := by
    unfold run
    rw [hrun]
    rfl
  refine ⟨_, by rw [hrun], herrors, ?_⟩
  rw [herrors, doing, refused]
  decide

end Invocation

end CloudRehearsal
