import CloudRehearsal.Chore.Containers
import CloudRehearsal.Proofs.Attempt
import Mathlib.Algebra.BigOperators.Group.Finset.Basic
import Mathlib.Algebra.Order.Floor.Div

/-!
Waiting until a server is healthy. A machine settles how every question for health would be answered, and
when it would be asked if no answer before it were a good one (`Machine.answerTo`, `Machine.askedAt`); any
answers and any times are some machine's (`Machine.exists_answers`). Of these questions the wait asks
those that begin in time, up to the first that has a good answer (`Chore.Waited`).

As half a second at least lies between two questions, there is room for only so many
(`Machine.mul_pauseNanos_le_askedAt`).
-/
namespace CloudRehearsal

open Chore (pauseNanos)

variable {σ : Type}

/-! ## The questions of a wait -/

namespace Machine

variable (m : Machine σ) (url : String)

/-- The state in which a question for health, and the pause after it, leave the machine. -/
def afterRound (s : σ) : σ := (m.pause pauseNanos (m.probe url s).2).2

/-- How long the question and the pause take, in nanoseconds. -/
def roundTime (s : σ) : Nat :=
  (m.probe url s).1.took + pauseNanos + (m.pause pauseNanos (m.probe url s).2).1

/-- The answer to the question with a number. -/
def answerTo : σ → Nat → Probe
  | s, 0 => (m.probe url s).1
  | s, n + 1 => answerTo (m.afterRound url s) n

/-- When the question with a number is asked, in nanoseconds from the first. -/
def askedAt : σ → Nat → Nat
  | _, 0 => 0
  | s, n + 1 => m.roundTime url s + askedAt (m.afterRound url s) n

/-- Every question has had the pauses of all before it. -/
theorem mul_pauseNanos_le_askedAt (s : σ) (n : Nat) : n * pauseNanos ≤ m.askedAt url s n := by
  induction n generalizing s with
  | zero => simp
  | succ n ih =>
    have hround : pauseNanos ≤ m.roundTime url s := by
      unfold roundTime
      omega
    have hrest := ih (m.afterRound url s)
    rw [askedAt, Nat.succ_mul]
    omega

theorem askedAt_monotone (s : σ) : Monotone (m.askedAt url s) := by
  refine monotone_nat_of_le_succ fun n => ?_
  induction n generalizing s with
  | zero => exact Nat.zero_le _
  | succ n ih => exact Nat.add_le_add_left (ih (m.afterRound url s)) _

/-- A machine that gives these answers, and is late by these times after its pauses. -/
def scripted (answers : Nat → Probe) (lateness : Nat → Nat) : Machine Nat where
  launch _ n := (.ok ⟨true, [], []⟩, n)
  probe _ n := (answers n, n)
  pause _ n := (lateness n, n + 1)

/-- Every sequence of answers, each with the time it takes, is some machine's, and so is every sequence
of pauses that are long enough. -/
theorem exists_answers (answers : Nat → Probe) (lateness : Nat → Nat) :
    ∃ m : Machine Nat, ∀ n, m.answerTo url 0 n = answers n ∧ m.askedAt url 0 n =
      ∑ i ∈ Finset.range n, ((answers i).took + pauseNanos + lateness i) := by
  refine ⟨scripted answers lateness, fun n => ?_⟩
  suffices h : ∀ k, (scripted answers lateness).answerTo url k n = answers (k + n) ∧
      (scripted answers lateness).askedAt url k n = ∑ i ∈ Finset.range n,
        ((answers (k + i)).took + pauseNanos + lateness (k + i)) by
    simpa only [Nat.zero_add] using h 0
  induction n with
  | zero => exact fun k => ⟨rfl, rfl⟩
  | succ n ih =>
    intro k
    obtain ⟨hanswer, hasked⟩ := ih (k + 1)
    refine ⟨?_, ?_⟩
    · rw [answerTo, show k + (n + 1) = k + 1 + n by omega, ← hanswer]
      rfl
    · calc
        _ = (answers k).took + pauseNanos + lateness k +
            (scripted answers lateness).askedAt url (k + 1) n := rfl
        _ = _ := by
          rw [hasked, Finset.sum_range_succ', Nat.add_comm]
          refine congrArg (· + _) (Finset.sum_congr rfl fun i _ => ?_)
          rw [Nat.add_right_comm k 1 i, Nat.add_assoc k i 1]

end Machine

namespace Chore

/-! ## What a wait has asked -/

/-- A wait that began in the state `s`, when `elapsed` had passed already, has asked so many questions,
and has found the server healthy or not. -/
structure Waited (m : Machine σ) (url : String) (timeout elapsed : Nat) (s : σ) (asked : Nat)
    (healthy : Bool) : Prop where
  /-- A question is asked when it begins in time and no answer before it is a good one. -/
  asks : ∀ n, n < asked ↔
    elapsed + m.askedAt url s n < timeout ∧ ∀ k < n, (m.answerTo url s k).healthy = false
  found : healthy = true ↔ ∃ n < asked, (m.answerTo url s n).healthy = true

section

variable {m : Machine σ} {url : String} {timeout elapsed asked : Nat} {s : σ} {healthy : Bool}

theorem Waited.late (h : timeout ≤ elapsed) : Waited m url timeout elapsed s 0 false where
  asks n := iff_of_false (Nat.not_lt_zero n) fun ⟨hn, _⟩ => by omega
  found := by simp

theorem Waited.first (h : elapsed < timeout) (hs : (m.probe url s).1.healthy = true) :
    Waited m url timeout elapsed s 1 true where
  asks n := by
    cases n with
    | zero => simpa [Machine.askedAt] using h
    | succ n =>
      refine iff_of_false (by omega) fun ⟨_, hbefore⟩ => ?_
      exact absurd (hs.symm.trans (hbefore 0 n.succ_pos)) (by decide)
  found := iff_of_true rfl ⟨0, Nat.one_pos, hs⟩

/-- The first answer is not a good one, and the wait goes on after a pause. -/
theorem Waited.next (h : elapsed < timeout) (hs : (m.probe url s).1.healthy = false)
    (later : Waited m url timeout (elapsed + m.roundTime url s) (m.afterRound url s) asked healthy) :
    Waited m url timeout elapsed s (asked + 1) healthy where
  asks n := by
    cases n with
    | zero => simpa [Machine.askedAt] using h
    | succ n =>
      rw [Nat.succ_lt_succ_iff, later.asks, Machine.askedAt, Nat.add_assoc]
      refine and_congr_right fun _ => ⟨fun hbefore k hk => ?_, fun hbefore k hk => ?_⟩
      · cases k with
        | zero => exact hs
        | succ k => exact hbefore k (Nat.lt_of_succ_lt_succ hk)
      · exact hbefore (k + 1) (Nat.succ_lt_succ hk)
  found := by
    rw [later.found]
    refine ⟨fun ⟨n, hn, hgood⟩ => ⟨n + 1, Nat.succ_lt_succ hn, hgood⟩, fun ⟨n, hn, hgood⟩ => ?_⟩
    cases n with
    | zero => exact absurd (hs.symm.trans hgood) (by decide)
    | succ n => exact ⟨n, Nat.lt_of_succ_lt_succ hn, hgood⟩

/-- There is room for so many questions and no more. -/
theorem Waited.asked_le (h : Waited m url timeout elapsed s asked healthy) :
    asked ≤ timeout ⌈/⌉ pauseNanos := by
  cases asked with
  | zero => exact Nat.zero_le _
  | succ last =>
    obtain ⟨hlast, -⟩ := (h.asks last).1 last.lt_succ_self
    have hpauses := m.mul_pauseNanos_le_askedAt url s last
    rw [← Nat.not_lt, Nat.lt_succ_iff, ceilDiv_le_iff_le_mul (by decide), Nat.mul_comm]
    omega

theorem Waited.last (h : Waited m url timeout elapsed s asked healthy) {n : Nat} (hn : n < asked)
    (hgood : (m.answerTo url s n).healthy = true) : asked = n + 1 := by
  refine Nat.le_antisymm (Nat.not_lt.1 fun hmore => ?_) hn
  obtain ⟨-, hbefore⟩ := (h.asks (n + 1)).1 hmore
  exact absurd (hgood.symm.trans (hbefore n n.lt_succ_self)) (by decide)

/-- The server is found healthy when any question that begins in time would have a good answer. -/
theorem Waited.healthy_iff (h : Waited m url timeout elapsed s asked healthy) :
    healthy = true ↔
      ∃ n, elapsed + m.askedAt url s n < timeout ∧ (m.answerTo url s n).healthy = true := by
  rw [h.found]
  constructor
  · rintro ⟨n, hn, hgood⟩
    exact ⟨n, ((h.asks n).1 hn).1, hgood⟩
  · rintro ⟨n, hn, hgood⟩
    -- an earlier question may have a good answer, and the first of these is asked
    have hex : ∃ n, (m.answerTo url s n).healthy = true := ⟨n, hgood⟩
    have hfirst : m.askedAt url s (Nat.find hex) ≤ m.askedAt url s n :=
      m.askedAt_monotone url s (Nat.find_min' hex hgood)
    refine ⟨Nat.find hex, (h.asks _).2 ⟨by omega, fun k hk => ?_⟩, Nat.find_spec hex⟩
    exact Bool.eq_false_iff.2 (Nat.find_min hex hk)

end

/-! ## The wait -/

variable (m : Machine σ)

theorem run_ask_probe {α : Type} (url : String) (next : Probe → Program ChoreAct.Answer α)
    (w : ChoreWorld σ) :
    Program.run (ChoreWorld.respond m) (.ask (.probe url) next) w =
      (next (m.probe url w.machine).1).run (ChoreWorld.respond m)
        { w with machine := (m.probe url w.machine).2, probes := w.probes ++ [url] } := rfl

theorem run_ask_pause {α : Type} (nanos : Nat) (next : Nat → Program ChoreAct.Answer α)
    (w : ChoreWorld σ) :
    Program.run (ChoreWorld.respond m) (.ask (.pause nanos) next) w =
      (next (m.pause nanos w.machine).1).run (ChoreWorld.respond m)
        { w with machine := (m.pause nanos w.machine).2 } := rfl

/-- A wait asks the questions of its machine, and does nothing else. -/
theorem run_healthyWithin (url : String) (timeout elapsed : Nat) (w : ChoreWorld σ) :
    ∃ asked healthy s', Program.run (ChoreWorld.respond m) (healthyWithin url timeout elapsed) w =
        (healthy, { w with machine := s', probes := w.probes ++ List.replicate asked url }) ∧
      Waited m url timeout elapsed w.machine asked healthy := by
  induction elapsed using healthyWithin.induct timeout generalizing w with
  | case1 elapsed h ih =>
    rw [healthyWithin_of_lt h, run_ask_probe]
    cases hs : (m.probe url w.machine).1.healthy with
    | true =>
      rw [if_pos rfl]
      exact ⟨1, true, _, rfl, .first h hs⟩
    | false =>
      rw [if_neg Bool.false_ne_true, run_ask_pause]
      obtain ⟨asked, healthy, s', hrun, later⟩ := ih (m.probe url w.machine).1
        (m.pause pauseNanos (m.probe url w.machine).2).1
        { w with machine := m.afterRound url w.machine, probes := w.probes ++ [url] }
      refine ⟨asked + 1, healthy, s', ?_, .next h hs ?_⟩
      · rw [List.append_assoc] at hrun
        exact hrun
      · simpa only [Machine.roundTime, Nat.add_assoc] using later
  | case2 elapsed h =>
    rw [healthyWithin_of_le (Nat.not_lt.1 h)]
    refine ⟨0, false, w.machine, ?_, .late (Nat.not_lt.1 h)⟩
    rw [List.replicate_zero, List.append_nil]
    rfl

theorem run_awaitHealth (c : Container) (timeout : Duration) (w : ChoreWorld σ) :
    ∃ asked healthy s', (awaitHealth c timeout).run m w =
        (if healthy then .ok () else .error (.unhealthy c.name timeout.seconds),
          { w with machine := s', probes := w.probes ++ List.replicate asked c.healthUrl }) ∧
      Waited m c.healthUrl timeout.toNanos 0 w.machine asked healthy := by
  obtain ⟨asked, healthy, s', hrun, hwaited⟩ := run_healthyWithin m c.healthUrl timeout.toNanos 0 w
  refine ⟨asked, healthy, s', ?_, hwaited⟩
  have hlift : Program.attempt (ChoreWorld.respond m)
      (ExceptT.lift (healthyWithin c.healthUrl timeout.toNanos 0) : Chore Bool) w =
        (.ok healthy, { w with machine := s', probes := w.probes ++ List.replicate asked c.healthUrl }) := by
    rw [Program.attempt_lift, hrun]
  unfold awaitHealth
  rw [run_eq, Program.attempt_bind_ok hlift]
  cases healthy <;> rfl

/-- **Waiting for health ends, and with the right answer.** Whatever the questions and the pauses take,
there are no more questions than half seconds begin in the time for the wait. A question is asked exactly
when it begins in time and no answer before it is a good one; so none follows a good answer. The wait
succeeds exactly when a question that begins in time has a good answer, and fails otherwise, with the name
of the container and the whole seconds of its time. -/
theorem awaitHealth_keeps_time (c : Container) (timeout : Duration) (w : ChoreWorld σ) :
    ∃ asked, ((awaitHealth c timeout).run m w).2.probes =
        w.probes ++ List.replicate asked c.healthUrl ∧
      asked ≤ timeout.toNanos ⌈/⌉ pauseNanos ∧
      (∀ n, n < asked ↔ m.askedAt c.healthUrl w.machine n < timeout.toNanos ∧
        ∀ k < n, (m.answerTo c.healthUrl w.machine k).healthy = false) ∧
      (∀ n < asked, (m.answerTo c.healthUrl w.machine n).healthy = true → asked = n + 1) ∧
      (((awaitHealth c timeout).run m w).1 = .ok () ↔
        ∃ n, m.askedAt c.healthUrl w.machine n < timeout.toNanos ∧
          (m.answerTo c.healthUrl w.machine n).healthy = true) ∧
      (((awaitHealth c timeout).run m w).1 = .error (.unhealthy c.name timeout.seconds) ↔
        ∀ n, m.askedAt c.healthUrl w.machine n < timeout.toNanos →
          (m.answerTo c.healthUrl w.machine n).healthy = false) := by
  obtain ⟨asked, healthy, s', hrun, h⟩ := run_awaitHealth m c timeout w
  have hasks := h.asks
  have hhealthy := h.healthy_iff
  simp only [Nat.zero_add] at hasks hhealthy
  rw [hrun]
  refine ⟨asked, rfl, h.asked_le, hasks, fun n hn => h.last hn, ?_, ?_⟩
  · rw [← hhealthy]
    cases healthy <;> simp
  · cases healthy with
    | true =>
      obtain ⟨n, hn, hgood⟩ := hhealthy.1 rfl
      refine iff_of_false (by simp) fun hnone => ?_
      exact absurd (hgood.symm.trans (hnone n hn)) (by decide)
    | false =>
      refine iff_of_true rfl fun n hn => Bool.eq_false_iff.2 fun hgood => ?_
      exact absurd (hhealthy.2 ⟨n, hn, hgood⟩) (by decide)

end Chore

end CloudRehearsal
