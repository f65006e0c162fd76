import CloudRehearsal.Proofs.Calls

/-!
The account that a world keeps of what was sent and noted. A session does not look back at it: started
again on an empty account it does the same (`Session.run_eq_onto`), so what a session does after others
is what it does alone, in the state that they have left.
-/
namespace CloudRehearsal

variable {σ α : Type}

namespace World

/-- The same surroundings, with nothing on the account. -/
def afresh (w : World σ) : World σ := { w with requests := [], events := [] }

/-- The account goes on from that of `earlier`. -/
def onto (earlier w : World σ) : World σ :=
  { w with
    requests := earlier.requests ++ w.requests
    events := earlier.events ++ w.events }

theorem onto_afresh (w : World σ) : onto w w.afresh = w := by
  simp [onto, afresh]

theorem Noted.afresh_eq {w w' : World σ} (h : w.Noted w') : w'.afresh = w.afresh := by
  simp [afresh, h.service, h.drawn]

theorem respond_onto (server : Server σ) (ids : Nat → Uuid) (earlier w : World σ) (act : Act) :
    respond server ids act (onto earlier w) =
      ((respond server ids act w).1, onto earlier (respond server ids act w).2) := by
  cases act with
  | send request => simp [respond, onto]
  | draw => rfl
  | note event => simp [respond, onto]

end World

/-- A session does the same whatever is on the account, and the account goes on from there. -/
theorem Session.run_onto (p : Session α) (server : Server σ) (ids : Nat → Uuid)
    (earlier w : World σ) :
    p.run server ids (World.onto earlier w) =
      ((p.run server ids w).1, World.onto earlier (p.run server ids w).2) := by
  unfold Session.run
  induction p generalizing w with
  | done a => rfl
  | ask act next ih =>
    simp only [Program.run]
    rw [World.respond_onto]
    exact ih _ _

theorem Session.run_eq_onto (p : Session α) (server : Server σ) (ids : Nat → Uuid) (w : World σ) :
    p.run server ids w =
      ((p.run server ids w.afresh).1, World.onto w (p.run server ids w.afresh).2) := by
  have h := Session.run_onto p server ids w w.afresh
  rwa [World.onto_afresh] at h

/-- What a session comes to does not depend on the account. -/
theorem Session.run_congr (p : Session α) (server : Server σ) (ids : Nat → Uuid) {w w' : World σ}
    (h : w'.afresh = w.afresh) : (p.run server ids w').1 = (p.run server ids w).1 := by
  rw [run_eq_onto p server ids w', h, run_eq_onto p server ids w]

end CloudRehearsal
