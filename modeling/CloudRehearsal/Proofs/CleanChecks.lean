import CloudRehearsal.Proofs.Connecting
import CloudRehearsal.Proofs.MemoryMock
import CloudRehearsal.Proofs.Trials

/-!
Any number of checks, in any order, on a faithful mock: all of them pass, and of all that the mock holds
only its verified senders and the count of deliveries are not as they were
(`Trial.faithful_mock_passes`).

A trial may be made again under the same name, because it has taken away what it made. `shop_passes` is
a series on a mock in memory that makes every trial under the same few names.
-/
namespace CloudRehearsal

/-- The two mocks hold the same tables, buckets with their objects, topics and pools. -/
structure Mock.SameHoldings (M N : Mock) : Prop where
  tables : N.tables = M.tables
  buckets : N.buckets = M.buckets
  topics : N.topics = M.topics
  pools : N.pools = M.pools

theorem Mock.SameHoldings.refl (M : Mock) : M.SameHoldings M := ⟨rfl, rfl, rfl, rfl⟩

theorem Mock.SameHoldings.trans {L M N : Mock} (h : L.SameHoldings M) (h' : M.SameHoldings N) :
    L.SameHoldings N :=
  ⟨h'.tables.trans h.tables, h'.buckets.trans h.buckets, h'.topics.trans h.topics,
    h'.pools.trans h.pools⟩

/-! ## Outcomes -/

theorem Check.run_outcome {σ : Type} {server : Server σ} {ids : Nat → Uuid} {w w' : World σ} (c : Check)
    {r : Except CheckError Unit} (h : Session.attempt c.body server ids w = (r, w')) :
    ∃ w'', c.outcome.run server ids w = (.ofResult c.name r, w'') ∧ w'.Noted w'' := by
  unfold Check.outcome
  rw [Session.run_bind, show c.body.run.run server ids w = (r, w') from h]
  cases r with
  | ok u => exact ⟨w', rfl, .refl w'⟩
  | error e => exact ⟨_, rfl, ⟨rfl, rfl, rfl⟩⟩

namespace Trial

variable {σ : Type} {server : Server σ} {view : σ → Mock} {ids : Nat → Uuid} {M N : Mock}
  {name name' : String} {t t' : Trial}

/-! ## One trial -/

/-- Nothing goes by the name that a trial works under. -/
def Unused (M : Mock) (name : String) : Trial → Prop
  | table => M.tables name = none
  | object | bucket => M.buckets name = none
  | unverified => stranger name ∉ M.verified
  | verified => True
  | topic => ∀ arn, M.topics arn ≠ some name
  | user => ∀ id pool, M.pools id = some pool → pool.name ≠ name

/-- What a trial under a name leaves of a mock: all as it was, but for a mail that is counted and its
sender. -/
def Leaves (server : Server σ) (view : σ → Mock) (M : Mock) (name : String) (N : Mock) : Trial → Prop
  | verified => ∃ attempts, Counts server view M.attempts attempts ∧
      N = { M with verified := insert (sender name) M.verified, attempts }
  | _ => N = M

theorem leads_work (hf : Faithful server view) (clients : Clients) (hv : t ≠ verified)
    (hn : name ≠ "") (hu : t.Unused M name) :
    Leads server view ids M (t.work clients name) fun _ after => after = M := by
  cases t with
  | table => exact leads_table hf clients hu
  | object => exact leads_object hf clients hn hu
  | bucket => exact leads_bucket hf clients hn hu
  | unverified => exact leads_unverified hf clients hu
  | verified => exact absurd rfl hv
  | topic => exact leads_topic hf clients hu
  | user => exact leads_user hf clients hu

theorem leaves_iff (hv : t ≠ verified) : t.Leaves server view M name N ↔ N = M := by
  cases t with
  | verified => exact absurd rfl hv
  | _ => exact Iff.rfl

/-- A trial under an unused name leaves a mock as it should, and passes as long as 64 bits hold the
count of deliveries. -/
theorem attempt_work (hf : Faithful server view) (clients : Clients) (ids : Nat → Uuid)
    (hn : name ≠ "") (w : World σ) (hu : t.Unused (view w.service) name) :
    ∃ r w', Session.attempt (t.work clients name) server ids w = (r, w') ∧
      t.Leaves server view (view w.service) name (view w'.service) ∧ w'.drawn = w.drawn ∧
      (Int64.minValue.toInt ≤ (view w.service).attempts →
        (view w'.service).attempts ≤ Int64.maxValue.toInt → r = .ok ()) := by
  by_cases hv : t = verified
  · subst hv
    have hmail : Leads server view ids (view w.service) (countedMail name) _ := leads_countedMail hf
    obtain ⟨counts, w', e, ⟨attempts, hcounts, rfl, hafter⟩, d⟩ := hmail w rfl
    have hleaves : verified.Leaves server view (view w.service) name (view w'.service) :=
      ⟨attempts, hcounts, hafter⟩
    have htotal : (view w'.service).attempts = attempts := by rw [hafter]
    by_cases hlt : Int64.ofInt (view w.service).attempts < Int64.ofInt attempts
    · refine ⟨.ok (), w', ?_, hleaves, d, fun _ _ => rfl⟩
      exact (Session.attempt_bind_ok e).trans (Checking.attempt_ensure_true (decide_eq_true hlt) _)
    · refine ⟨_, w', (Session.attempt_bind_ok e).trans
        (Checking.attempt_ensure_false (decide_eq_false hlt) _), hleaves, d, fun hl hu => ?_⟩
      exact absurd (Mail.ofInt_lt_ofInt hl hcounts.1 (htotal ▸ hu)) hlt
  · have hwork : Leads server view ids (view w.service) (t.work clients name) _ :=
      leads_work hf clients hv hn hu
    obtain ⟨_, w', e, hafter, d⟩ := hwork w rfl
    exact ⟨.ok (), w', e, (leaves_iff hv).2 hafter, d, fun _ _ => rfl⟩

/-! ## What a trial keeps -/

/-- What a trial can do: nothing, or one mail. -/
theorem Leaves.step (h : t.Leaves server view M name N) :
    t ≠ verified ∧ N = M ∨
      t = verified ∧ ∃ attempts, Counts server view M.attempts attempts ∧
        N = { M with verified := insert (sender name) M.verified, attempts } := by
  by_cases hv : t = verified
  · subst hv
    exact .inr ⟨rfl, h⟩
  · exact .inl ⟨hv, (leaves_iff hv).1 h⟩

theorem Leaves.sameHoldings (h : t.Leaves server view M name N) : M.SameHoldings N := by
  obtain ⟨-, rfl⟩ | ⟨-, attempts, -, rfl⟩ := h.step
  · exact .refl N
  · exact ⟨rfl, rfl, rfl, rfl⟩

theorem Leaves.attempts_le (h : t.Leaves server view M name N) : M.attempts ≤ N.attempts := by
  obtain ⟨-, rfl⟩ | ⟨-, attempts, hcounts, rfl⟩ := h.step
  · exact Int.le_refl _
  · exact hcounts.1.le

/-- A name that is not in use is not in use after any trial. -/
theorem Leaves.unused (h : t.Leaves server view M name N) (hu : t'.Unused M name') :
    t'.Unused N name' := by
  obtain ⟨-, rfl⟩ | ⟨-, attempts, -, rfl⟩ := h.step
  · exact hu
  · cases t' with
    | unverified =>
      rintro (he | hm)
      · exact stranger_ne_sender name' name he
      · exact hu hm
    | _ => exact hu

/-! ## A series of trials -/

/-- Makes trials one after the other, whatever each of them comes to. -/
def runSeries (clients : Clients) (ts : List Trial) : Session (List CheckOutcome) :=
  (ts.map (check clients)).mapM Check.outcome

theorem runSeries_all (clients : Clients) : runSeries clients all = Check.runAll clients := rfl

/-- The outcome of a trial whose check has passed. -/
def passed (clients : Clients) (t : Trial) : CheckOutcome := ⟨(t.check clients).name, true, none⟩

/-- None of the names that a series works under is in use, the names being those of the identifiers from
the `n`-th on. -/
def AllUnused (ids : Nat → Uuid) (ts : List Trial) (n : Nat) (M : Mock) : Prop :=
  ∀ (i : Nat) (t : Trial), ts[i]? = some t → t.Unused M (resourceName t.label (ids (n + i)))

/-- What a series may leave of a mock, its names being those of the identifiers from the `n`-th on. -/
def LeaveAll (server : Server σ) (view : σ → Mock) (ids : Nat → Uuid) :
    List Trial → Nat → Mock → Mock → Prop
  | [], _, M, N => N = M
  | t :: ts, n, M, N => ∃ K, t.Leaves server view M (resourceName t.label (ids n)) K ∧
      LeaveAll server view ids ts (n + 1) K N

theorem run_outcome (hf : Faithful server view) (clients : Clients) (w : World σ)
    (hu : t.Unused (view w.service) (resourceName t.label (ids w.drawn))) :
    ∃ o w', (t.check clients).outcome.run server ids w = (o, w') ∧
      t.Leaves server view (view w.service) (resourceName t.label (ids w.drawn)) (view w'.service) ∧
      w'.drawn = w.drawn + 1 ∧
      (Int64.minValue.toInt ≤ (view w.service).attempts →
        (view w'.service).attempts ≤ Int64.maxValue.toInt → o = t.passed clients) := by
  obtain ⟨r, w₁, e, hl, d, hp⟩ :=
    attempt_work hf clients ids (resourceName_ne_empty _ _) w.drew hu
  have eb : Session.attempt (t.check clients).body server ids w = (r, w₁) := by
    rw [body_eq, Session.attempt_bind_ok (Checking.attempt_freshName _ w)]
    exact e
  obtain ⟨w₂, e₂, n⟩ := Check.run_outcome (t.check clients) eb
  refine ⟨_, w₂, e₂, ?_, n.drawn.trans d, fun hlo hhi => ?_⟩
  · rw [n.service]
    exact hl
  · rw [n.service] at hhi
    rw [hp hlo hhi]
    rfl

theorem run_runSeries_cons {clients : Clients} {ts : List Trial} {o : CheckOutcome}
    {os : List CheckOutcome} {w w₁ w₂ : World σ}
    (h : (t.check clients).outcome.run server ids w = (o, w₁))
    (h' : (runSeries clients ts).run server ids w₁ = (os, w₂)) :
    (runSeries clients (t :: ts)).run server ids w = (o :: os, w₂) := by
  unfold runSeries at h' ⊢
  rw [List.map_cons, List.mapM_cons, Session.run_bind, h, Session.run_bind, h']
  rfl

theorem LeaveAll.attempts_le : ∀ {ts : List Trial} {n : Nat} {M : Mock},
    LeaveAll server view ids ts n M N → M.attempts ≤ N.attempts
  | [], _, _, h => by rw [h]
  | _ :: _, _, _, ⟨_, h, hs⟩ => Int.le_trans h.attempts_le hs.attempts_le

theorem run_runSeries (hf : Faithful server view) (clients : Clients) (ids : Nat → Uuid)
    (ts : List Trial) :
    ∀ w : World σ, AllUnused ids ts w.drawn (view w.service) →
      ∃ os w', (runSeries clients ts).run server ids w = (os, w') ∧
        LeaveAll server view ids ts w.drawn (view w.service) (view w'.service) ∧
        (Int64.minValue.toInt ≤ (view w.service).attempts →
          (view w'.service).attempts ≤ Int64.maxValue.toInt → os = ts.map (passed clients)) := by
  induction ts with
  | nil => exact fun w _ => ⟨[], w, rfl, rfl, fun _ _ => rfl⟩
  | cons t ts ih =>
    intro w hu
    obtain ⟨o, w₁, e₁, hl, d, ho⟩ := run_outcome hf clients w (hu 0 t rfl)
    -- the other names are still not in use
    have hu' : AllUnused ids ts w₁.drawn (view w₁.service) := by
      intro i t' hi
      rw [d, Nat.add_assoc, Nat.add_comm 1 i]
      exact hl.unused (hu (i + 1) t' hi)
    obtain ⟨os, w₂, e₂, hls, hos⟩ := ih w₁ hu'
    rw [d] at hls
    refine ⟨o :: os, w₂, run_runSeries_cons e₁ e₂, ⟨_, hl, hls⟩, fun hlo hhi => ?_⟩
    rw [ho hlo (Int.le_trans hls.attempts_le hhi),
      hos (Int.le_trans hlo hl.attempts_le) hhi]
    rfl

/-! ## What a series keeps -/

/-- The senders that a series makes verified. -/
def newSenders (ids : Nat → Uuid) (ts : List Trial) (n : Nat) : Set String :=
  {a | ∃ i, ts[i]? = some verified ∧ a = sender (resourceName verified.label (ids (n + i)))}

theorem mem_newSenders_cons {t : Trial} {ts : List Trial} {n : Nat} {a : String} :
    a ∈ newSenders ids (t :: ts) n ↔
      t = verified ∧ a = sender (resourceName verified.label (ids n)) ∨
        a ∈ newSenders ids ts (n + 1) := by
  show (∃ i, _) ↔ _ ∨ ∃ i, _
  rw [← Nat.or_exists_add_one]
  simp [Nat.add_assoc, Nat.add_comm 1]

theorem LeaveAll.sameHoldings : ∀ {ts : List Trial} {n : Nat} {M : Mock},
    LeaveAll server view ids ts n M N → M.SameHoldings N
  | [], _, M, h => by
    rw [h]
    exact .refl M
  | _ :: _, _, _, ⟨_, h, hs⟩ => h.sameHoldings.trans hs.sameHoldings

theorem LeaveAll.verified_eq : ∀ {ts : List Trial} {n : Nat} {M : Mock},
    LeaveAll server view ids ts n M N → N.verified = M.verified ∪ newSenders ids ts n
  | [], n, M, h => by
    rw [h]
    simp [newSenders]
  | t :: ts, n, M, ⟨K, h, hs⟩ => by
    ext a
    rw [hs.verified_eq, Set.mem_union, Set.mem_union, mem_newSenders_cons]
    obtain ⟨hv, rfl⟩ | ⟨rfl, attempts, -, rfl⟩ := h.step
    · simp [hv]
    · simp [or_assoc, or_left_comm]

theorem LeaveAll.attempts_count : ∀ {ts : List Trial} {n : Nat} {M : Mock},
    LeaveAll server view ids ts n M N → M.attempts + ts.count verified ≤ N.attempts
  | [], _, _, h => by
    rw [h]
    simp
  | t :: ts, n, M, ⟨K, h, hs⟩ => by
    obtain ⟨hv, rfl⟩ | ⟨rfl, attempts, ⟨hlt, -⟩, rfl⟩ := h.step
    · rw [List.count_cons_of_ne hv]
      exact hs.attempts_count
    · have hts : attempts + ts.count verified ≤ N.attempts := hs.attempts_count
      rw [List.count_cons_self]
      omega

/-- A server that counts no mail twice counts exactly one for each. -/
theorem LeaveAll.attempts_eq (hone : ∀ {a b : Int}, Counts server view a b → b = a + 1) :
    ∀ {ts : List Trial} {n : Nat} {M : Mock},
      LeaveAll server view ids ts n M N → N.attempts = M.attempts + ts.count verified
  | [], _, _, h => by
    rw [h]
    simp
  | t :: ts, n, M, ⟨K, h, hs⟩ => by
    obtain ⟨hv, rfl⟩ | ⟨rfl, attempts, hcounts, rfl⟩ := h.step
    · rw [List.count_cons_of_ne hv]
      exact hs.attempts_eq hone
    · have hts : N.attempts = attempts + ts.count verified := hs.attempts_eq hone
      rw [hts, hone hcounts, List.count_cons_self]
      omega

/-- **A faithful mock passes every check and is left clean**, whatever it holds, for any number of
checks in any order: under names that are not in use, and as long as 64 bits hold the count of
deliveries, every check passes. The mock then holds the tables, buckets, objects, topics and pools that
it held before; what is new are the senders that the checks have verified, and the deliveries. -/
theorem faithful_mock_passes {server : Server σ} {view : σ → Mock} (hf : Faithful server view)
    (clients : Clients) (ids : Nat → Uuid) (ts : List Trial) (w : World σ)
    (hu : AllUnused ids ts w.drawn (view w.service))
    (hlo : Int64.minValue.toInt ≤ (view w.service).attempts)
    (hhi : (view ((runSeries clients ts).run server ids w).2.service).attempts ≤
      Int64.maxValue.toInt) :
    ((runSeries clients ts).run server ids w).1 = ts.map (passed clients) ∧
      (view w.service).SameHoldings (view ((runSeries clients ts).run server ids w).2.service) ∧
      (view ((runSeries clients ts).run server ids w).2.service).verified =
        (view w.service).verified ∪ newSenders ids ts w.drawn ∧
      (view w.service).attempts + ts.count verified ≤
        (view ((runSeries clients ts).run server ids w).2.service).attempts := by
  obtain ⟨os, w', e, hl, hos⟩ := run_runSeries hf clients ids ts w hu
  rw [e] at hhi ⊢
  exact ⟨hos hlo hhi, hl.sameHoldings, hl.verified_eq, hl.attempts_count⟩

/-! ## A shop in memory -/

/-- A mock that has been in use. -/
def shop : Memory where
  tables := (∅ : Std.HashMap String Mock.Table).insert "orders"
    ⟨"id", fun key => if key = "1" then some [("item", "tea")] else none⟩
  buckets := (∅ : Std.HashMap String (Std.HashMap String (List UInt8))).insert "receipts"
    ((∅ : Std.HashMap String (List UInt8)).insert "1.txt" [116, 101, 97])
  verified := [sender "shop"]
  sent := 3
  topics := (∅ : Std.HashMap String String).insert "arn:orders" "orders"
  pools := (∅ : Std.HashMap String Memory.Pool).insert "buyers-1" ⟨"buyers", ["till"],
    (∅ : Std.HashMap String Mock.Account).insert "ada" ⟨"Secret1!", true⟩,
    (∅ : Std.HashMap String String).insert "token" "ada"⟩

/-- Clients of a mock on this machine. -/
def loopback : Clients where
  endpoint := ⟨"http://[::1]:5000", "us-east-1", none⟩
  accepted := Endpoint.accepted_of_isOk (by decide +kernel)

/-- A name is told from others by its first letter. -/
theorem resourceName_ne {label s : String} {c d : Char} (hl : label.toList.head? = some c)
    (hs : s.toList.head? = some d) (hne : c ≠ d) (u : Uuid) : resourceName label u ≠ s := by
  rintro rfl
  rw [resourceName, String.toList_append, String.toList_append, List.append_assoc,
    List.head?_append, hl] at hs
  exact hne (Option.some.inj hs)

theorem shop_unused (t : Trial) (u : Uuid) : t.Unused shop.view (resourceName t.label u) := by
  have hne {s : String} {c d : Char} (hl : t.label.toList.head? = some c)
      (hs : s.toList.head? = some d) (hcd : c ≠ d) : resourceName t.label u ≠ s :=
    resourceName_ne hl hs hcd u
  cases t with
  | table => exact held_single_of_ne (hne (s := "orders") (c := 'c') (d := 'o') rfl rfl (by decide))
  | object | bucket =>
    exact congrArg (Option.map held)
      (held_single_of_ne (hne (s := "receipts") (c := 'c') (d := 'r') rfl rfl (by decide)))
  | unverified =>
    intro h
    exact stranger_ne_sender _ _ (List.mem_singleton.1 h)
  | verified => trivial
  | topic =>
    intro arn h
    exact hne (s := "orders") (c := 'c') (d := 'o') rfl rfl (by decide) (held_single h).2
  | user =>
    intro id pool h
    obtain ⟨p, hp, rfl⟩ := shown_eq_some_iff.1 h
    obtain ⟨-, rfl⟩ := held_single hp
    exact (hne (s := "buyers") (c := 'c') (d := 'b') rfl rfl (by decide)).symm

/-- Visits to the shop, some of them twice. -/
def visits : List Trial :=
  [user, verified, bucket, object, bucket, topic, unverified, verified, table, table]

/-- The outcomes of the visits, and the world after them. Every name is the same each time. -/
def visited : List CheckOutcome × World Memory :=
  (runSeries loopback visits).run Memory.server (fun _ => 7) (.start shop)

/-- The shop passes every visit and is left as it was, but for the sender and the two mails. -/
theorem shop_passes :
    visited.1 = visits.map (passed loopback) ∧ shop.view.SameHoldings visited.2.service.view ∧
      visited.2.service.view.verified = shop.view.verified ∪ newSenders (fun _ => 7) visits 0 ∧
      3 + 2 ≤ visited.2.service.view.attempts := by
  have hu : AllUnused (fun _ => 7) visits 0 shop.view := fun _ t _ => shop_unused t _
  have hlo : Int64.minValue.toInt ≤ shop.view.attempts := by decide
  have hhi : visited.2.service.view.attempts ≤ Int64.maxValue.toInt := by
    obtain ⟨os, w', e, hl, -⟩ :=
      run_runSeries Memory.faithful loopback (fun _ => 7) visits (.start shop) hu
    rw [visited, e, hl.attempts_eq Memory.eq_add_one_of_counts]
    decide
  exact faithful_mock_passes Memory.faithful loopback (fun _ => 7) visits (.start shop) hu hlo hhi

end Trial

end CloudRehearsal
