import CloudRehearsal.Proofs.ErrorClasses
import CloudRehearsal.Proofs.Fixtures
import CloudRehearsal.Proofs.Passing

/-!
When the check of tables passes: exactly when the server creates the table under its name, refuses to
create it again because the name is taken, in words that begin as expected, and then deletes it
(`tableCreateAndDuplicate_passes_iff`).

The kind of the refusal counts and so do its words. A refusal without words gets the text of its
exception for words, and a text that begins with the exception's name (`Fault.Named`) never begins as
expected.
-/
namespace CloudRehearsal

open Text Checking

/-- The words in which a table that exists is to be refused. -/
def takenWords (name : String) : String := s!"Table already exists: {name}"

/-- The reply refuses a table because its name is taken, in words that begin as expected. -/
def Reply.RefusesTaken {α : Type} (name : String) (reply : Reply α) : Prop :=
  ∃ fault words, reply = .error fault ∧ fault.Says "ResourceInUseException" words ∧
    (takenWords name).toList <+: words.toList

/-- The text of an exception begins with its name. -/
def Fault.Named (fault : Fault) : Prop :=
  ∀ x, fault.exception = some x → x.name.toList <+: x.display.toList

theorem Fault.named_modeled (name : String) (message : Option String) :
    (modeled name message).Named := by
  rintro _ ⟨⟩
  cases message with
  | none => exact List.prefix_rfl
  | some said =>
    show name.toList <+: (name ++ ": " ++ said).toList
    rw [String.toList_append, String.toList_append, List.append_assoc]
    exact List.prefix_append ..

theorem head?_append_of_head? {start rest : List Char} {c : Char} (h : start.head? = some c) :
    (start ++ rest).head? = some c := by
  rw [List.head?_append, h]
  rfl

theorem toList_takenWords (name : String) :
    (takenWords name).toList = "Table already exists: ".toList ++ name.toList :=
  String.toList_append

theorem head?_of_prefix_takenWords {name words : String}
    (h : (takenWords name).toList <+: words.toList) : words.toList.head? = some 'T' := by
  obtain ⟨rest, hr⟩ := h
  rw [toList_takenWords, List.append_assoc] at hr
  rw [← hr]
  exact head?_append_of_head? (by rfl)

/-- The words of an exception begin as expected exactly when the service has said so. -/
theorem takenWords_prefix_wordsOf_iff (name : String) {x : ServiceException}
    (hx : x.name = "ResourceInUseException") (hnamed : x.name.toList <+: x.display.toList) :
    (takenWords name).toList <+: (ClientError.wordsOf x).toList ↔
      ∃ said, x.message = some said ∧ (takenWords name).toList <+: said.toList := by
  by_cases hm : ∃ said, x.message = some said ∧ said ≠ ""
  · obtain ⟨said, hm, hs⟩ := hm
    rw [ClientError.wordsOf_of_message hm hs]
    simp [hm]
  · -- without words of its own it gets those of the exception
    have hw : ClientError.wordsOf x = x.display := by
      unfold ClientError.wordsOf
      split
      next said hsaid => exact if_pos (Decidable.of_not_not fun hs => hm ⟨said, hsaid, hs⟩)
      next => rfl
    have hhead : x.display.toList.head? = some 'R' := by
      obtain ⟨rest, hr⟩ := hnamed
      rw [hx] at hr
      rw [← hr]
      exact head?_append_of_head? (by rfl)
    rw [hw]
    refine iff_of_false (fun hp => ?_) ?_
    · exact nomatch hhead.symm.trans (head?_of_prefix_takenWords hp)
    · rintro ⟨said, hsaid, hp⟩
      refine hm ⟨said, hsaid, ?_⟩
      rintro rfl
      exact nomatch head?_of_prefix_takenWords hp

namespace Method

theorem read_createTable_eq_ok_iff {table key created : String} {reply : Reply (Option String)} :
    (createTable table key).read reply = .ok created ↔ reply = .output (some created) :=
  read_eq_ok_iff_of_response rfl

end Method

namespace Check

/-! ## The second creation -/

/-- What the check makes of a second creation. -/
def verdict (name : String) : Except ClientError String → Except CheckError Unit
  | .ok _ => .error (.assertion s!"second create of {name} succeeded")
  | .error (.alreadyExists _ _ message) =>
    if startsWith message (takenWords name) then .ok ()
    else .error (.assertion s!"expected {quoted (takenWords name)}, got {quoted message}")
  | .error e => .error (.client e)

theorem verdict_eq_ok_iff {name : String} {second : Except ClientError String} :
    verdict name second = .ok () ↔ ∃ resource id message,
      second = .error (.alreadyExists resource id message) ∧
        (takenWords name).toList <+: message.toList := by
  cases second with
  | ok created => simp [verdict]
  | error e =>
    cases e with
    | alreadyExists resource id message =>
      rw [verdict]
      split
      next h => exact iff_of_true rfl ⟨resource, id, message, rfl, startsWith_iff.1 h⟩
      next h =>
        refine iff_of_false nofun ?_
        rintro ⟨_, _, _, he, hw⟩
        cases he
        exact h (startsWith_iff.2 hw)
    | _ => simp [verdict]

/-- The second creation is as it should be exactly when it is refused because the name is taken. -/
theorem verdict_read_iff {name : String} {reply : Reply (Option String)}
    (hnamed : ∀ fault, reply = .error fault → fault.Named) :
    verdict name ((Method.createTable name "id").read reply) = .ok () ↔ reply.RefusesTaken name := by
  rw [verdict_eq_ok_iff]
  cases reply with
  | output o =>
    refine iff_of_false ?_ (by simp [Reply.RefusesTaken])
    rintro ⟨resource, id, message, h, -⟩
    cases o <;> cases h
  | lost call =>
    refine iff_of_false ?_ (by simp [Reply.RefusesTaken])
    rintro ⟨resource, id, message, h, -⟩
    cases h
  | error fault =>
    have hread : (Method.createTable name "id").read (.error fault) =
        .error (ClientError.ofCreateTable name (.service fault)) := rfl
    rw [hread, ClientError.ofCreateTable, ClientError.ofException]
    split
    next x hx =>
      obtain ⟨hx, hn⟩ := SendError.exceptionIn?_service_eq_some_iff.1 hx
      have hn := List.mem_singleton.1 hn
      have hw := takenWords_prefix_wordsOf_iff name hn (hnamed fault rfl x hx)
      constructor
      · rintro ⟨_, _, _, h, hp⟩
        cases h
        obtain ⟨said, hm, hp⟩ := hw.1 hp
        exact ⟨fault, said, rfl, (Fault.says_iff hx).2 ⟨hn, hm⟩, hp⟩
      · rintro ⟨_, said, h, hs, hp⟩
        cases h
        exact ⟨_, _, _, rfl, hw.2 ⟨said, ((Fault.says_iff hx).1 hs).2, hp⟩⟩
    next hx =>
      refine iff_of_false (by simp [ClientError.ofSend]) ?_
      rintro ⟨_, said, h, hs, -⟩
      cases h
      exact SendError.exceptionIn?_service_eq_none_iff.1 hx _ (List.mem_singleton.2 rfl) hs.is

variable {σ : Type} (server : Server σ) (ids : Nat → Uuid) (w : World σ)

theorem tableAssertions_of_same (name : String) :
    ∃ w', Session.attempt (tableAssertions name name) server ids w =
        (verdict name ((Method.createTable name "id").read
          (server.answer (.createTable name "id") w.service).1), w') ∧
      (w.answered server (.createTable name "id")).Noted w' := by
  obtain ⟨w', e, n⟩ := ((Method.createTable name "id").asks rfl).run server ids w
  refine ⟨w', ?_, n⟩
  unfold tableAssertions
  rw [Session.attempt_bind_ok (attempt_ensure_true (by simp) _),
    Session.attempt_bind_ok (Session.attempt_lift_run e)]
  cases (Method.createTable name "id").read
      (server.answer (.createTable name "id") w.service).1 with
  | ok created => rfl
  | error failure =>
    cases failure with
    | alreadyExists resource id message =>
      simp only [verdict]
      split
      next h => exact attempt_ensure_true h _
      next h => exact attempt_ensure_false (Bool.eq_false_iff.2 h) _
    | _ => rfl

theorem tableAssertions_of_other {name created : String} (h : created ≠ name) :
    ∃ e, Session.attempt (tableAssertions name created) server ids w = (.error e, w) := by
  unfold tableAssertions
  exact ⟨_, Session.attempt_bind_error (attempt_ensure_false (by simpa using h) _)⟩

/-! ## The whole check -/

/-- The table that the check works on. -/
def tableOf (ids : Nat → Uuid) (w : World σ) : String := resourceName "check-table" (ids w.drawn)

/-- How the server answers the first creation of the table. -/
def firstCreation : Reply (Option String) × σ :=
  server.answer (.createTable (tableOf ids w) "id") w.service

/-- How it answers the second, asked for right after the first. -/
def secondCreation : Reply (Option String) × σ :=
  server.answer (.createTable (tableOf ids w) "id") (firstCreation server ids w).2

/-- How it answers the deletion, asked for right after the second creation. -/
def deletionAfter : Reply Unit × σ :=
  server.answer (.deleteTable (tableOf ids w)) (secondCreation server ids w).2

/-- What the check comes to, and what it has sent by then. -/
inductive TableRun : Except CheckError Unit → List Request → Prop where
  /-- The first creation fails, or does not say what the table is called. -/
  | uncreated {e : CheckError}
      (h : ∀ reported, (firstCreation server ids w).1 ≠ .output (some reported)) :
      TableRun (.error e) [.createTable (tableOf ids w) "id"]
  /-- The table has another name. -/
  | misnamed {e : CheckError} {reported : String}
      (h : (firstCreation server ids w).1 = .output (some reported)) (hne : reported ≠ tableOf ids w) :
      TableRun (.error e)
        [.createTable (tableOf ids w) "id", .deleteTable (tableOf ids w)]
  /-- The table is created under its name, and a second time it is tried. -/
  | tried {cleaned : Except ClientError Unit}
      (h : (firstCreation server ids w).1 = .output (some (tableOf ids w)))
      (hc : cleaned = .ok () ↔ ∃ o, (deletionAfter server ids w).1 = .output o) :
      TableRun
        (firstFailure
          (verdict (tableOf ids w)
            ((Method.createTable (tableOf ids w) "id").read (secondCreation server ids w).1))
          (cleaned.mapError .client))
        [.createTable (tableOf ids w) "id", .createTable (tableOf ids w) "id",
          .deleteTable (tableOf ids w)]

/-- Every run of the check is one of these. -/
theorem tableRun :
    ∃ result sent w', Session.attempt tableCreateAndDuplicate server ids w = (result, w') ∧
      w'.requests = w.requests ++ sent ∧ TableRun server ids w result sent := by
  obtain ⟨w₁, e₁, n₁⟩ := ((Method.createTable (tableOf ids w) "id").asks rfl).run server ids w.drew
  have hfirst : w₁.requests = w.requests ++ [.createTable (tableOf ids w) "id"] := n₁.requests
  cases hread : (Method.createTable (tableOf ids w) "id").read (firstCreation server ids w).1 with
  | error failure =>
    have hm : (Fixture.table.making server ids w).1 = .error failure :=
      (congrArg Prod.fst e₁).trans hread
    refine ⟨_, _, _, Fixture.run_of_not_made .table server ids w hm, ?_, .uncreated fun reported h => ?_⟩
    · exact (congrArg (·.2.requests) e₁).trans hfirst
    · exact nomatch hread.symm.trans (Method.read_createTable_eq_ok_iff.2 h)
  | ok reported =>
    rw [firstCreation] at hread
    have hmade : Session.attempt (Tables.create (tableOf ids w) "id") server ids w.drew =
        (.ok reported, w₁) := e₁.trans (Prod.ext hread rfl)
    have hreply := Method.read_createTable_eq_ok_iff.1 hread
    by_cases hname : reported = tableOf ids w
    · subst hname
      have hsecond : server.answer (.createTable (tableOf ids w) "id") w₁.service =
          secondCreation server ids w := by
        rw [n₁.service]
        rfl
      obtain ⟨w₂, e₂, n₂⟩ := tableAssertions_of_same server ids w₁ (tableOf ids w)
      rw [hsecond] at e₂
      have hdeletion : server.answer (.deleteTable (tableOf ids w)) w₂.service =
          deletionAfter server ids w := by
        rw [n₂.service, World.answered, hsecond]
        rfl
      obtain ⟨w₃, e₃, n₃⟩ := ((Method.deleteTable (tableOf ids w)).asks rfl).run server ids w₂
      rw [hdeletion] at e₃
      have hsent : w₃.requests = w.requests ++ [.createTable (tableOf ids w) "id",
          .createTable (tableOf ids w) "id", .deleteTable (tableOf ids w)] := by
        rw [n₃.requests, World.answered, n₂.requests, World.answered, hfirst]
        simp only [List.append_assoc, List.cons_append, List.nil_append]
      refine ⟨_, _, w₃, Fixture.run_of_steps .table server ids w hmade e₂ e₃, hsent, .tried hreply ?_⟩
      rw [Method.read_eq_ok_iff (by simp)]
      exact exists_congr fun o => and_iff_left rfl
    · obtain ⟨e, e₂⟩ := tableAssertions_of_other server ids w₁ hname
      obtain ⟨w₃, e₃, n₃⟩ := ((Method.deleteTable (tableOf ids w)).asks rfl).run server ids w₁
      have hsent : w₃.requests = w.requests ++ [.createTable (tableOf ids w) "id",
          .deleteTable (tableOf ids w)] := by
        rw [n₃.requests, World.answered, hfirst]
        simp only [List.append_assoc, List.cons_append, List.nil_append]
      exact ⟨_, _, w₃, Fixture.run_of_steps .table server ids w hmade e₂ e₃, hsent,
        .misnamed hreply hname⟩

variable {server ids w} {result : Except CheckError Unit} {sent : List Request}

theorem TableRun.eq_ok_iff (h : TableRun server ids w result sent)
    (hnamed : ∀ fault, (secondCreation server ids w).1 = .error fault → fault.Named) :
    result = .ok () ↔
      (firstCreation server ids w).1 = .output (some (tableOf ids w)) ∧
        (secondCreation server ids w).1.RefusesTaken (tableOf ids w) ∧
          ∃ o, (deletionAfter server ids w).1 = .output o := by
  cases h with
  | uncreated hf => exact iff_of_false nofun fun ⟨h, _⟩ => hf _ h
  | misnamed hf hne =>
    refine iff_of_false nofun fun ⟨h, _⟩ => hne ?_
    cases hf.symm.trans h
    rfl
  | tried hf hc =>
    rw [Fixture.firstFailure_client_eq_ok_iff, verdict_read_iff hnamed, hc]
    exact ⟨fun h => ⟨hf, h⟩, fun h => h.2⟩

/-- Without words, with empty words or as anything but that exception, a refusal is not the one that is
waited for. -/
theorem not_refusesTaken {α : Type} {name : String} {fault : Fault}
    (h : ∀ x, fault.exception = some x →
      x.message = none ∨ x.message = some "" ∨ x.name ≠ "ResourceInUseException") :
    ¬ (Reply.error fault : Reply α).RefusesTaken name := by
  rintro ⟨_, words, he, ⟨x, hx, hn, hm⟩, hp⟩
  cases he
  rcases h x hx with h | h | h
  · cases h.symm.trans hm
  · cases h.symm.trans hm
    exact nomatch head?_of_prefix_takenWords hp
  · exact h hn

/-- **When the check of tables passes.** Exactly when the table is created under its name, the second
creation is refused because the name is taken, in words that begin as expected, and the deletion
succeeds. A table of another name is not created a second time. A refusal with no words or empty words
fails the check, and so does one that arrives as anything else, or a second success.

The text of an exception stands in for words that are missing; it is taken to begin with the exception's
name. -/
theorem tableCreateAndDuplicate_passes_iff (server : Server σ) (ids : Nat → Uuid) (w : World σ)
    (hnamed : ∀ fault, (secondCreation server ids w).1 = .error fault → fault.Named) :
    ((Session.attempt tableCreateAndDuplicate server ids w).1 = .ok () ↔
      (firstCreation server ids w).1 = .output (some (tableOf ids w)) ∧
      (∃ fault words, (secondCreation server ids w).1 = .error fault ∧
        fault.Says "ResourceInUseException" words ∧
        s!"Table already exists: {tableOf ids w}".toList <+: words.toList) ∧
      ∃ o, (deletionAfter server ids w).1 = .output o) ∧
    (∀ reported, (firstCreation server ids w).1 = .output (some reported) → reported ≠ tableOf ids w →
      (Session.attempt tableCreateAndDuplicate server ids w).2.requests = w.requests ++
        [.createTable (tableOf ids w) "id", .deleteTable (tableOf ids w)]) ∧
    (∀ fault, (secondCreation server ids w).1 = .error fault →
      (∀ x, fault.exception = some x →
        x.message = none ∨ x.message = some "" ∨ x.name ≠ "ResourceInUseException") →
      ∃ e, (Session.attempt tableCreateAndDuplicate server ids w).1 = .error e) ∧
    ∀ reported, (secondCreation server ids w).1 = .output reported →
      ∃ e, (Session.attempt tableCreateAndDuplicate server ids w).1 = .error e := by
  obtain ⟨result, sent, w', he, hsent, h⟩ := tableRun server ids w
  have hfails (hr : ¬ (secondCreation server ids w).1.RefusesTaken (tableOf ids w)) :
      ∃ e, result = .error e := by
    cases result with
    | error e => exact ⟨e, rfl⟩
    | ok u => exact absurd ((h.eq_ok_iff hnamed).1 rfl).2.1 hr
  rw [he]
  refine ⟨h.eq_ok_iff hnamed, fun reported hr hne => ?_, fun fault hs hfault => hfails ?_,
    fun reported hs => hfails ?_⟩
  · cases h with
    | uncreated hf => exact absurd hr (hf reported)
    | misnamed => exact hsent
    | tried hf =>
      cases hf.symm.trans hr
      exact absurd rfl hne
  · rw [hs]
    exact not_refusesTaken hfault
  · rw [hs]
    rintro ⟨_, words, hw, -⟩
    cases hw

/-- A service that keeps one table. -/
def register : Server (Option String) where
  answer
    | .createTable table _, none => (.output (some table), some table)
    | .createTable .., some table =>
      (.error (.modeled "ResourceInUseException" (some (takenWords table))), some table)
    | .deleteTable _, _ => (.output (), none)
    | _, s => (.lost ⟨.connectIo, "connection refused"⟩, s)

/-- The check passes on it: its refusal begins with the words that are waited for, and ends with
them. -/
theorem registered_table_passes :
    (∀ fault, (secondCreation register (fun _ => 7) (.start none)).1 = .error fault → fault.Named) ∧
      (Session.attempt tableCreateAndDuplicate register (fun _ => 7) (.start none)).1 = .ok () := by
  have hnamed : ∀ fault,
      (secondCreation register (fun _ => 7) (.start none)).1 = .error fault → fault.Named := by
    rintro _ ⟨⟩
    exact Fault.named_modeled _ _
  refine ⟨hnamed, (tableCreateAndDuplicate_passes_iff register _ _ hnamed).1.2 ⟨rfl, ?_, (), rfl⟩⟩
  exact ⟨_, _, rfl, Fault.says_modeled _ _, List.prefix_rfl⟩

end Check

end CloudRehearsal
