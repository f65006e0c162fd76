import CloudRehearsal.Chore.Basic
import CloudRehearsal.Exchange.Session

/-!
Running programs that can fail. `Program.attempt` gives what a program comes to and the state it
leaves; the laws say what a sequence, or a body with a clean-up, comes to from what its parts do.

Chores and the sessions of calls and checks are such programs (`Session.attempt`, `Chore.run_eq`), so
the laws are stated once.
-/
namespace CloudRehearsal

namespace Program

variable {Act : Type} {Answer : Act → Type} {ε α β σ : Type}

/-- Runs a program that can fail. -/
def attempt (respond : (act : Act) → σ → Answer act × σ) (p : ExceptT ε (Program Answer) α) (s : σ) :
    Except ε α × σ :=
  Program.run respond (ExceptT.run p) s

variable {respond : (act : Act) → σ → Answer act × σ}

@[simp] theorem attempt_pure (a : α) (s : σ) :
    attempt respond (pure a : ExceptT ε (Program Answer) α) s = (.ok a, s) := rfl

@[simp] theorem attempt_throw (e : ε) (s : σ) :
    attempt respond (throw e : ExceptT ε (Program Answer) α) s = (.error e, s) := rfl

theorem attempt_lift (p : Program Answer α) (s : σ) :
    attempt respond (ExceptT.lift p : ExceptT ε (Program Answer) α) s =
      (.ok (p.run respond s).1, (p.run respond s).2) := by
  unfold attempt
  rw [ExceptT.run_lift, map_eq_pure_bind, run_bind]
  rfl

theorem attempt_lift_run {δ : Type} {p : ExceptT δ (Program Answer) α} {s s' : σ}
    {outcome : Except δ α} (h : attempt respond p s = (outcome, s')) :
    attempt respond (ExceptT.lift p.run : ExceptT ε (Program Answer) (Except δ α)) s =
      (.ok outcome, s') := by
  unfold attempt at h
  rw [attempt_lift, h]

theorem attempt_bind_ok {p : ExceptT ε (Program Answer) α} {f : α → ExceptT ε (Program Answer) β}
    {s s' : σ} {a : α} (h : attempt respond p s = (.ok a, s')) :
    attempt respond (p >>= f) s = attempt respond (f a) s' := by
  unfold attempt at h ⊢
  rw [ExceptT.run_bind, run_bind, h]

theorem attempt_bind_error {p : ExceptT ε (Program Answer) α} {f : α → ExceptT ε (Program Answer) β}
    {s s' : σ} {e : ε} (h : attempt respond p s = (.error e, s')) :
    attempt respond (p >>= f) s = (.error e, s') := by
  unfold attempt at h ⊢
  rw [ExceptT.run_bind, run_bind, h]
  rfl

/-- The clean-up runs in the state that the body leaves, whatever the body has come to. -/
theorem attempt_thenAlways {body : ExceptT ε (Program Answer) α}
    {cleanUp : ExceptT ε (Program Answer) Unit} {s s' s'' : σ} {outcome : Except ε α}
    {cleaned : Except ε Unit} (hb : attempt respond body s = (outcome, s'))
    (hc : attempt respond cleanUp s' = (cleaned, s'')) :
    attempt respond (thenAlways body cleanUp) s = (firstFailure outcome cleaned, s'') := by
  unfold attempt at hb hc ⊢
  show Program.run respond (body.run >>= fun outcome => cleanUp.run >>= fun cleaned =>
    pure (firstFailure outcome cleaned)) s = _
  rw [run_bind, hb, run_bind, hc]
  rfl

end Program

namespace Session

variable {ε δ α β σ : Type} {server : Server σ} {ids : Nat → Uuid} {w w' w'' : World σ}

/-- Runs a call or a check against a server. -/
def attempt (p : ExceptT ε Session α) (server : Server σ) (ids : Nat → Uuid) (w : World σ) :
    Except ε α × World σ :=
  Program.attempt (World.respond server ids) p w

theorem attempt_bind_ok {p : ExceptT ε Session α} {f : α → ExceptT ε Session β} {a : α}
    (h : attempt p server ids w = (.ok a, w')) :
    attempt (p >>= f) server ids w = attempt (f a) server ids w' :=
  Program.attempt_bind_ok h

theorem attempt_bind_error {p : ExceptT ε Session α} {f : α → ExceptT ε Session β} {e : ε}
    (h : attempt p server ids w = (.error e, w')) :
    attempt (p >>= f) server ids w = (.error e, w') :=
  Program.attempt_bind_error h

theorem attempt_lift_run {p : ExceptT δ Session α} {outcome : Except δ α}
    (h : attempt p server ids w = (outcome, w')) :
    attempt (ExceptT.lift p.run : ExceptT ε Session (Except δ α)) server ids w = (.ok outcome, w') :=
  Program.attempt_lift_run h

theorem attempt_thenAlways {body : ExceptT ε Session α} {cleanUp : ExceptT ε Session Unit}
    {outcome : Except ε α} {cleaned : Except ε Unit} (hb : attempt body server ids w = (outcome, w'))
    (hc : attempt cleanUp server ids w' = (cleaned, w'')) :
    attempt (thenAlways body cleanUp) server ids w = (firstFailure outcome cleaned, w'') :=
  Program.attempt_thenAlways hb hc

end Session

theorem Chore.run_eq {σ α : Type} (chore : Chore α) (m : Machine σ) (w : ChoreWorld σ) :
    chore.run m w = Program.attempt (ChoreWorld.respond m) chore w := rfl

end CloudRehearsal
