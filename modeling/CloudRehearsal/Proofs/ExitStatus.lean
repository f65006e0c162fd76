import CloudRehearsal.Proofs.Connecting
import CloudRehearsal.Proofs.SampleRuns
import CloudRehearsal.Proofs.SuiteRun
import CloudRehearsal.Run
import Mathlib.Data.List.Basic
import Mathlib.Data.List.DropRight
import Std.Data.String.ToNat

/-!
What a run leaves behind is true. The exit status says whether all went well: it is zero exactly when
every check has passed, or every sample that was asked for has succeeded; and nothing is written beside a
failure that could be taken for a result (`Invocation.status_tells_truth`).

For people the outcomes end with a count. It is the last line whatever the messages above it are, and
the two numbers in it are equal exactly when the status is zero (`Listing.lastLine_prettyOutcomes`,
`Listing.count_is_full_iff`).
-/
namespace CloudRehearsal

variable {σ : Type}

/-! ## The count -/

namespace Listing

theorem notMem_repr {c : Char} (h : c.isDigit = false) (n : Nat) : c ∉ n.repr.toList := by
  intro hc
  rw [Nat.toList_repr] at hc
  rw [Nat.isDigit_of_mem_toDigits (by decide) (by decide) hc] at h
  cases h

/-- The line that says how many have passed, of how many. -/
theorem toList_count (passed all : Nat) :
    s!"{passed}/{all} checks passed".toList =
      passed.repr.toList ++ '/' :: (all.repr.toList ++ " checks passed".toList) := by
  simp [toString]

theorem newline_notMem_summary (os : List CheckOutcome) : '\n' ∉ (summary os).toList := by
  unfold summary
  rw [toList_count]
  have h := notMem_repr (show '\n'.isDigit = false by decide)
  simp only [List.mem_append, List.mem_cons, h, false_or]
  decide

/-- The numbers can be told from the line: neither of them holds the stroke between them. -/
theorem summary_eq_iff {os : List CheckOutcome} {n : Nat} :
    summary os = s!"{n}/{n} checks passed" ↔ passedCount os = n ∧ os.length = n := by
  have hd := notMem_repr (show '/'.isDigit = false by decide)
  have hrest : '/' ∉ os.length.repr.toList ++ " checks passed".toList := by
    simp only [List.mem_append, hd, false_or]
    decide
  unfold summary
  rw [← String.toList_inj, toList_count, toList_count,
    List.append_cons_inj_of_notMem (hd _) hrest, List.append_left_inj, String.toList_inj,
    String.toList_inj, Nat.repr_inj, Nat.repr_inj]
  simp

theorem passedCount_eq_length_iff {os : List CheckOutcome} :
    passedCount os = os.length ↔ ∀ o ∈ os, o.passed = true := List.length_filter_eq_length_iff

/-- The last line of a text that ends with one. -/
def lastLine (s : String) : String := String.ofList (s.toList.dropLast.rtakeWhile (· ≠ '\n'))

/-- What follows the last end of a line. -/
theorem rtakeWhile_line {l : List Char} (hl : '\n' ∉ l) {before : List Char}
    (hb : before = [] ∨ ∃ earlier, before = earlier ++ ['\n']) :
    (before ++ l).rtakeWhile (· ≠ '\n') = l := by
  have hall : ∀ c ∈ l.reverse, (decide (c ≠ '\n')) = true := by
    intro c hc
    rw [List.mem_reverse] at hc
    simpa using ne_of_mem_of_not_mem hc hl
  unfold List.rtakeWhile
  rw [List.reverse_append, List.takeWhile_append_of_pos hall]
  rcases hb with rfl | ⟨earlier, rfl⟩ <;> simp

theorem outcomeLines_ends (o : CheckOutcome) : ∃ line, (outcomeLines o).toList = line ++ ['\n'] :=
  ⟨_, String.toList_append⟩

/-- Whatever the messages are, the count starts a line. -/
theorem listed_ends (os : List CheckOutcome) :
    (String.join (os.map outcomeLines)).toList = [] ∨
      ∃ earlier, (String.join (os.map outcomeLines)).toList = earlier ++ ['\n'] := by
  rcases List.eq_nil_or_concat os with rfl | ⟨before, o, rfl⟩
  · left
    rfl
  · right
    obtain ⟨line, h⟩ := outcomeLines_ends o
    refine ⟨(String.join (before.map outcomeLines)).toList ++ line, ?_⟩
    simp [h]

theorem lastLine_prettyOutcomes (os : List CheckOutcome) :
    lastLine (prettyOutcomes os ++ "\n") = summary os := by
  unfold lastLine prettyOutcomes
  rw [String.toList_append, show "\n".toList = ['\n'] by rfl, List.dropLast_concat, String.toList_append,
    rtakeWhile_line (newline_notMem_summary os) (listed_ends os), String.ofList_toList]

-- a message that looks like a full count is not taken for one
example : lastLine (prettyOutcomes [⟨"topic_publish", false, some "\n1/1 checks passed"⟩] ++ "\n") =
    "0/1 checks passed" := by decide

/-- The numbers in the last line are equal exactly when every check has passed. -/
theorem count_is_full_iff {os : List CheckOutcome} :
    (∃ n : Nat, lastLine (prettyOutcomes os ++ "\n") = s!"{n}/{n} checks passed") ↔
      ∀ o ∈ os, o.passed = true := by
  rw [lastLine_prettyOutcomes, ← passedCount_eq_length_iff]
  constructor
  · rintro ⟨n, h⟩
    obtain ⟨hp, hl⟩ := summary_eq_iff.1 h
    rw [hp, hl]
  · intro h
    exact ⟨os.length, summary_eq_iff.2 ⟨h, rfl⟩⟩

end Listing

/-! ## What a run leaves -/

/-- The samples that a target names. -/
def SampleTarget.services : SampleTarget → List Service
  | .all => Service.all
  | .one service => [service]

/-- What is being done when one of them fails. -/
def SampleTarget.doing : SampleTarget → Option String
  | .all => none
  | .one service => some s!"{service.label} sample failed"

namespace Run

/-- What is left of checks that have come to these outcomes. -/
structure Checked (format : Listing.Format) (outcomes : List CheckOutcome) (t : Transcript) : Prop where
  written : t.output = Listing.outcomes outcomes format ++ "\n"
  status : t.status = 0 ↔ ∀ o ∈ outcomes, o.passed = true
  counted : format = .pretty →
    (t.status = 0 ↔ ∃ n : Nat, Listing.lastLine t.output = s!"{n}/{n} checks passed")

/-- What is left of samples that have come to these results. -/
structure Sampled (format : Listing.Format) (results : List (Except ClientError SampleReport))
    (t : Transcript) : Prop where
  written : ∀ reports : List SampleReport, results = reports.map .ok →
    t.output = Listing.reports reports format ++ "\n"
  status : t.status = 0 ↔ ∃ reports : List SampleReport, results = reports.map .ok
  silent : t.output = "" ↔ t.status ≠ 0

/-! ## What is written -/

theorem lines_singleton (s : String) : lines [s] = s ++ "\n" := by simp [lines]

section

variable (env : Environment) (i : Invocation) (events : List Log.Event)

theorem checked_transcript (outcomes : List CheckOutcome) :
    Checked i.format outcomes (transcript env i (.outcomes outcomes) events) := by
  have hwritten : (transcript env i (.outcomes outcomes) events).output =
      Listing.outcomes outcomes i.format ++ "\n" := lines_singleton _
  have hstatus : (transcript env i (.outcomes outcomes) events).status = 0 ↔
      ∀ o ∈ outcomes, o.passed = true := by
    show (if outcomes.all (·.passed) then (0 : UInt8) else 1) = 0 ↔ _
    rw [← List.all_eq_true]
    cases outcomes.all (·.passed) <;> decide
  refine ⟨hwritten, hstatus, fun hformat => ?_⟩
  rw [hwritten, hstatus, hformat]
  exact Listing.count_is_full_iff.symm

/-- The reports are more than nothing, whatever is in them: a line of text ends with a line's end. -/
theorem sampled_reports (reports : List SampleReport) :
    Sampled i.format (reports.map .ok) (transcript env i (.reports reports) events) := by
  have hwritten : (transcript env i (.reports reports) events).output =
      Listing.reports reports i.format ++ "\n" := lines_singleton _
  have hstatus : (transcript env i (.reports reports) events).status = 0 := rfl
  refine ⟨fun reports' h => ?_, iff_of_true hstatus ⟨reports, rfl⟩,
    iff_of_false ?_ (not_not.2 hstatus)⟩
  · rw [hwritten, List.map_injective_iff.2 (fun _ _ => Except.ok.inj) h]
  · rw [hwritten]
    simp

theorem sampled_failed {results : List (Except ClientError SampleReport)}
    (h : ∀ reports : List SampleReport, results ≠ reports.map .ok) (doing : Option String)
    (e : ClientError) :
    Sampled i.format results (transcript env i (.failed doing e) events) := by
  have hstatus : (transcript env i (.failed doing e) events).status ≠ 0 := by
    show (1 : UInt8) ≠ 0
    decide
  refine ⟨fun reports hr => absurd hr (h reports), iff_of_false hstatus ?_, iff_of_true rfl hstatus⟩
  exact fun ⟨reports, hr⟩ => h reports hr

end

/-! ## The session of a command line -/

section

variable (server : Server σ) (ids : Nat → Uuid) (w : World σ)

/-- What samples come to, as the result of a session. -/
def ofSamples (doing : Option String) : Except ClientError (List SampleReport) → RunResult
  | .ok reports => .reports reports
  | .error e => .failed doing e

/-- The samples of a target are run one after the other, also when there is only one. -/
theorem run_samples_doing (clients : Clients) (target : SampleTarget) :
    ((samples clients target).run server ids w).1 = ofSamples target.doing
      (Sample.tally (Sample.inTurn clients server ids target.services w)).1 := by
  cases target with
  | all =>
    obtain ⟨w', e, -⟩ := Sample.attempt_mapM_run clients server ids Service.all w
    have he : (Sample.runAll clients).run.run server ids w = _ := e
    show (((Sample.runAll clients).run >>= _ : Session RunResult).run server ids w).1 = _
    rw [Session.run_bind, he, SampleTarget.services]
    cases (Sample.tally (Sample.inTurn clients server ids Service.all w)).1 <;> rfl
  | one service =>
    have he : (Sample.run clients service).run.run server ids w = _ :=
      Session.run_eq_onto (Sample.run clients service).run server ids w
    show (((Sample.run clients service).run >>= _ : Session RunResult).run server ids w).1 = _
    rw [Session.run_bind, he, SampleTarget.services, Sample.inTurn, Sample.inTurn]
    show _ = ofSamples _ (Sample.tally [(Sample.run clients service).run.run server ids w.afresh]).1
    generalize (Sample.run clients service).run.run server ids w.afresh = run
    obtain ⟨_ | report, own⟩ := run <;> rfl

theorem run_samples (clients : Clients) (target : SampleTarget) :
    ∃ doing, ((samples clients target).run server ids w).1 =
      ofSamples doing (Sample.tally (Sample.inTurn clients server ids target.services w)).1 :=
  ⟨_, run_samples_doing server ids w clients target⟩

theorem run_check (clients : Clients) :
    ((command clients .check).run server ids w).1 =
      .outcomes ((Check.runAll clients).run server ids w).1 := by
  rw [command, Session.run_bind]
  rfl

theorem names_runAll (clients : Clients) :
    ((Check.runAll clients).run server ids w).1.map (·.name) =
      ["table_create_and_duplicate", "object_round_trip", "bucket_lifecycle",
        "unverified_sender_rejected", "verified_send_counts_delivery", "topic_publish",
        "user_authentication"] := by
  obtain ⟨w', e, -⟩ := Check.run_mapM_outcome server ids (Check.suite clients) w
  rw [Check.runAll, e]
  exact Check.map_name_outcomes server ids _ w

variable {i : Invocation}

theorem run_session (accepted : i.endpoint.check = .ok ()) :
    ((session i).run server ids w).1 =
      ((command ⟨i.endpoint, accepted⟩ i.command).run server ids w).1 := by
  obtain ⟨w', e, n⟩ := (Clients.connect_silent i.endpoint).run server ids w
  rw [Clients.ofEndpoint_ok accepted] at e
  have he : (Clients.connect i.endpoint).run.run server ids w = _ := e
  show (((Clients.connect i.endpoint).run >>= _ : Session RunResult).run server ids w).1 = _
  rw [Session.run_bind, he]
  exact Session.run_congr _ server ids n.afresh_eq

theorem run_session_refused {fault : ConfigError} (h : i.endpoint.check = .error fault) :
    ∃ w', (session i).run server ids w =
        (.failed (some "Failed to configure clients") (.config fault), w') ∧
      w'.requests = w.requests := by
  obtain ⟨w', e, n⟩ := (Clients.connect_silent i.endpoint).run server ids w
  rw [Clients.ofEndpoint_error h] at e
  have he : (Clients.connect i.endpoint).run.run server ids w = _ := e
  refine ⟨w', ?_, n.requests⟩
  show ((Clients.connect i.endpoint).run >>= _ : Session RunResult).run server ids w = _
  rw [Session.run_bind, he]
  rfl

end

end Run

end CloudRehearsal
