import CloudRehearsal.Check.Suite
import CloudRehearsal.Proofs.Accounts
import CloudRehearsal.Proofs.CleanChecks

/-!
The suite on any server whatever. Each check of the suite does what it does alone, in the state that the
checks before it have left, however these have ended (`Check.runAll_in_turn`).
-/
namespace CloudRehearsal

variable {σ : Type}

namespace Check

/-! ## Checks alone, and in turn -/

variable (server : Server σ) (ids : Nat → Uuid)

/-- The run of a check alone: its result, and the world after it with the check's own account. -/
def alone (c : Check) (w : World σ) : Except CheckError Unit × World σ :=
  Session.attempt c.body server ids w.afresh

/-- The runs of checks, each alone in the state that those before it have left. -/
def inTurn : List Check → World σ → List (Except CheckError Unit × World σ)
  | [], _ => []
  | c :: cs, w => c.alone server ids w :: inTurn cs (c.alone server ids w).2

/-- The state that checks leave when they are run alone, in turn. -/
def left : List Check → World σ → World σ
  | [], w => w.afresh
  | c :: cs, w => left cs (c.alone server ids w).2

theorem inTurn_congr {w w' : World σ} (h : w'.afresh = w.afresh) (cs : List Check) :
    inTurn server ids cs w' = inTurn server ids cs w := by
  cases cs with
  | nil => rfl
  | cons c cs =>
    simp only [inTurn, alone]
    rw [h]

theorem left_congr {w w' : World σ} (h : w'.afresh = w.afresh) (cs : List Check) :
    left server ids cs w' = left server ids cs w := by
  cases cs with
  | nil => exact h
  | cons c cs =>
    simp only [left, alone]
    rw [h]

/-- The checks before the `i`-th are those in whose state it runs. -/
theorem getElem?_inTurn {cs : List Check} {i : Nat} {c : Check} (h : cs[i]? = some c)
    (w : World σ) :
    (inTurn server ids cs w)[i]? = some (c.alone server ids (left server ids (cs.take i) w)) := by
  induction cs generalizing i w with
  | nil => simp at h
  | cons d cs ih =>
    cases i with
    | zero =>
      have hd : d = c := by simpa using h
      subst hd
      rfl
    | succ i =>
      have hc : cs[i]? = some c := by simpa using h
      exact ih hc _

/-! ## Outcomes in turn -/

theorem run_outcome_alone (c : Check) (w : World σ) :
    ∃ w', c.outcome.run server ids w = (.ofResult c.name (c.alone server ids w).1, w') ∧
      w'.afresh = (c.alone server ids w).2.afresh ∧
      w'.requests = w.requests ++ (c.alone server ids w).2.requests := by
  have h : Session.attempt c.body server ids w =
      ((c.alone server ids w).1, World.onto w (c.alone server ids w).2) :=
    Session.run_eq_onto c.body.run server ids w
  obtain ⟨w', e, n⟩ := c.run_outcome h
  exact ⟨w', e, n.afresh_eq, n.requests⟩

/-- The outcomes of checks, and what running them for their outcomes leaves: what the checks come to
alone, in turn. -/
theorem run_mapM_outcome (cs : List Check) (w : World σ) :
    ∃ w', (cs.mapM outcome : Session (List CheckOutcome)).run server ids w =
        (List.zipWith (fun c r => .ofResult c.name r.1) cs (inTurn server ids cs w), w') ∧
      w'.afresh = left server ids cs w ∧
      w'.requests = w.requests ++ (inTurn server ids cs w).flatMap (·.2.requests) := by
  induction cs generalizing w with
  | nil => exact ⟨w, rfl, rfl, by simp [inTurn]⟩
  | cons c cs ih =>
    obtain ⟨w₁, e₁, hstate, hsent⟩ := run_outcome_alone server ids c w
    obtain ⟨w₂, e₂, hleft, hrest⟩ := ih w₁
    rw [inTurn_congr server ids hstate] at e₂ hrest
    rw [left_congr server ids hstate] at hleft
    refine ⟨w₂, ?_, hleft, ?_⟩
    · rw [List.mapM_cons, Session.run_bind, e₁, Session.run_bind, e₂]
      rfl
    · rw [hrest, hsent]
      simp [inTurn]

theorem ofResult_name (name : String) (r : Except CheckError Unit) :
    (CheckOutcome.ofResult name r).name = name := by
  cases r <;> rfl

theorem map_name_outcomes (cs : List Check) (w : World σ) :
    (List.zipWith (fun c r => CheckOutcome.ofResult c.name r.1) cs (inTurn server ids cs w)).map
      (·.name) = cs.map (·.name) := by
  induction cs generalizing w with
  | nil => rfl
  | cons c cs ih =>
    simp only [inTurn, List.zipWith_cons_cons, List.map_cons, ofResult_name]
    rw [ih]

theorem ofResult_passed_iff (name : String) (r : Except CheckError Unit) :
    (CheckOutcome.ofResult name r).passed = true ∧ (CheckOutcome.ofResult name r).message = none ↔
      r = .ok () := by
  cases r <;> simp [CheckOutcome.ofResult]

end Check

end CloudRehearsal
