/-!
Programs that act on surroundings they know nothing of: a program is done, or performs one action and
goes on with whatever answer comes.

`Program.run` lets a program meet surroundings that answer each action from a state of their own. Its
two laws say that running a sequence is running its parts one after the other.

`thenAlways` has work followed by a clean-up, whatever the work has come to. All is well only if both
the work and the clean-up are; of two failures that of the work counts.
-/
namespace CloudRehearsal

/-- A program whose actions have answers of the types that `Answer` gives. -/
inductive Program {Act : Type} (Answer : Act → Type) (α : Type) : Type where
  | done (a : α)
  | ask (act : Act) (next : Answer act → Program Answer α)

namespace Program

variable {Act : Type} {Answer : Act → Type} {α β γ : Type}

/-- Goes on with `f` once the program is done. -/
def bind : Program Answer α → (α → Program Answer β) → Program Answer β
  | done a, f => f a
  | ask act next, f => ask act fun answer => (next answer).bind f

instance : Monad (Program Answer) where
  pure := done
  bind := bind

/-- Performs one action and gives its answer. -/
def perform (act : Act) : Program Answer (Answer act) := ask act done

theorem pure_eq (a : α) : (pure a : Program Answer α) = done a := rfl

theorem bind_eq (p : Program Answer α) (f : α → Program Answer β) : p >>= f = p.bind f := rfl

theorem bind_done (p : Program Answer α) : p.bind done = p := by
  induction p with
  | done a => rfl
  | ask act next ih => simp [bind, ih]

theorem bind_assoc (p : Program Answer α) (f : α → Program Answer β) (g : β → Program Answer γ) :
    (p.bind f).bind g = p.bind fun a => (f a).bind g := by
  induction p with
  | done a => rfl
  | ask act next ih => simp [bind, ih]

instance : LawfulMonad (Program Answer) := LawfulMonad.mk' _
  (by intro α x; exact bind_done x)
  (by intros; rfl)
  (by intros; exact bind_assoc _ _ _)

/-! ## Running -/

/-- Runs a program in surroundings that answer each action from their state. -/
def run {σ : Type} (respond : (act : Act) → σ → Answer act × σ) : Program Answer α → σ → α × σ
  | done a, s => (a, s)
  | ask act next, s => (next (respond act s).1).run respond (respond act s).2

variable {σ : Type} (respond : (act : Act) → σ → Answer act × σ)

theorem run_pure (a : α) (s : σ) : (pure a : Program Answer α).run respond s = (a, s) := rfl

theorem run_bind (p : Program Answer α) (f : α → Program Answer β) (s : σ) :
    (p >>= f).run respond s = (f (p.run respond s).1).run respond (p.run respond s).2 := by
  rw [bind_eq]
  induction p generalizing s with
  | done a => rfl
  | ask act next ih => simp [bind, run, ih]

end Program

/-! ## Clean-ups -/

section

variable {m : Type → Type} [Monad m] {ε α : Type}

/-- What a body and the clean-up after it have come to. -/
def firstFailure : Except ε α → Except ε Unit → Except ε α
  | .error e, _ => .error e
  | .ok _, .error e => .error e
  | .ok a, .ok _ => .ok a

theorem firstFailure_eq_ok_iff {body : Except ε α} {cleaned : Except ε Unit} {a : α} :
    firstFailure body cleaned = .ok a ↔ body = .ok a ∧ cleaned = .ok () := by
  cases body <;> cases cleaned <;> simp [firstFailure]

theorem firstFailure_error (e : ε) (cleaned : Except ε Unit) :
    firstFailure (.error e : Except ε α) cleaned = .error e := rfl

/-- Performs the clean-up after the body, even when the body has failed. -/
def thenAlways (body : ExceptT ε m α) (cleanUp : ExceptT ε m Unit) : ExceptT ε m α :=
  ExceptT.mk do
    let outcome ← body.run
    let cleaned ← cleanUp.run
    return firstFailure outcome cleaned

end

end CloudRehearsal
