import CloudRehearsal.Proofs.ExitStatus

/-!
What the outcomes of checks look like for people, line by line. A listing shows outcomes
(`Listing.Shows`) when the lines that begin with a status are theirs, one for each and in their order, and
all others but the count are indented.

A message may be a service's words, and only its first line is indented. So a listing shows its
outcomes exactly when the messages go on in indented lines or not at all (`Listing.shows_iff`);
otherwise a service can put the status of a check into the listing (`Listing.passed_forged`).
-/
namespace CloudRehearsal

open Text

variable {σ : Type}

namespace Listing

/-! ## Lines -/

/-- The lines of a text. -/
def linesIn (s : String) : List String := (s.toList.splitOn '\n').map String.ofList

theorem linesIn_of_notMem {s : String} (h : '\n' ∉ s.toList) : linesIn s = [s] := by
  rw [linesIn, List.splitOn_eq_singleton h, List.map_singleton, String.ofList_toList]

theorem linesIn_newline (s t : String) : linesIn (s ++ "\n" ++ t) = linesIn s ++ linesIn t := by
  have hc : (s ++ "\n" ++ t).toList = s.toList ++ '\n' :: t.toList := by simp
  rw [linesIn, hc, List.splitOn_append_cons_self, List.map_append]
  rfl

theorem linesIn_append {s : String} (h : '\n' ∉ s.toList) (t : String) :
    ∃ first, linesIn (s ++ t) = (s ++ first) :: (linesIn t).tail := by
  by_cases ht : '\n' ∈ t.toList
  · obtain ⟨first, rest, hsplit, hfirst⟩ := List.eq_append_cons_of_mem ht
    have hs : '\n' ∉ s.toList ++ first := by simp [h, hfirst]
    refine ⟨String.ofList first, ?_⟩
    rw [linesIn, linesIn, String.toList_append, hsplit, ← List.append_assoc,
      List.splitOn_append_cons_self_of_not_mem hs, List.splitOn_append_cons_self_of_not_mem hfirst]
    simp
  · have hst : '\n' ∉ (s ++ t).toList := by simp [h, ht]
    exact ⟨t, by rw [linesIn_of_notMem hst, linesIn_of_notMem ht, List.tail_cons]⟩

/-! ## The lines of a listing -/

/-- The line that says what a check has come to. -/
def statusLine (o : CheckOutcome) : String :=
  let status := if o.passed then "PASS" else "FAIL"
  s!"{status} {o.name}"

/-- The line begins with a status. -/
def isVerdict (line : String) : Bool := startsWith line "PASS " || startsWith line "FAIL "

/-- The line begins as those of messages are meant to. -/
def isIndented (line : String) : Bool := startsWith line "     "

/-- The lines of a message below its first. -/
def continued (o : CheckOutcome) : List String :=
  match o.message with
  | some message => (linesIn message).tail
  | none => []

/-- The lines of an outcome below its status. -/
def messageLines (o : CheckOutcome) : List String :=
  match o.message with
  | some message => linesIn ("     " ++ message)
  | none => []

theorem newline_notMem_indent : '\n' ∉ "     ".toList := by decide

/-- Only the first line of a message is indented. -/
theorem messageLines_eq (o : CheckOutcome) :
    messageLines o = [] ∧ continued o = [] ∨
      ∃ first, messageLines o = ("     " ++ first) :: continued o := by
  unfold messageLines continued
  cases o.message with
  | none => exact .inl ⟨rfl, rfl⟩
  | some message => exact .inr (linesIn_append newline_notMem_indent message)

theorem newline_notMem_statusLine {o : CheckOutcome} (h : '\n' ∉ o.name.toList) :
    '\n' ∉ (statusLine o).toList := by
  obtain ⟨name, passed, message⟩ := o
  have hl : (statusLine ⟨name, passed, message⟩).toList =
      (if passed then "PASS" else "FAIL").toList ++ ' ' :: name.toList := by
    simp [statusLine, toString]
  rw [hl]
  cases passed <;> simpa using h

theorem linesIn_outcomeLines {o : CheckOutcome} (h : '\n' ∉ o.name.toList) (t : String) :
    linesIn (outcomeLines o ++ t) = statusLine o :: (messageLines o ++ linesIn t) := by
  have hs := linesIn_of_notMem (newline_notMem_statusLine h)
  obtain ⟨name, passed, message⟩ := o
  cases message with
  | none =>
    have ho : outcomeLines ⟨name, passed, none⟩ = statusLine ⟨name, passed, none⟩ ++ "\n" := by
      simp [outcomeLines, statusLine, toString]
    rw [ho, linesIn_newline, hs]
    rfl
  | some message =>
    have ho : outcomeLines ⟨name, passed, some message⟩ =
        statusLine ⟨name, passed, some message⟩ ++ "\n" ++ ("     " ++ message) ++ "\n" := by
      rw [← String.toList_inj]
      simp [outcomeLines, statusLine, toString]
    rw [ho, linesIn_newline, linesIn_newline, hs]
    rfl

/-- The lines of a listing: for each outcome its status and its message, and the count at the end. -/
theorem linesIn_prettyOutcomes {os : List CheckOutcome} (h : ∀ o ∈ os, '\n' ∉ o.name.toList) :
    linesIn (prettyOutcomes os) =
      os.flatMap (fun o => statusLine o :: messageLines o) ++ [summary os] := by
  have hcount := linesIn_of_notMem (newline_notMem_summary os)
  unfold prettyOutcomes
  generalize summary os = count at hcount ⊢
  induction os with
  | nil => simpa using hcount
  | cons o os ih =>
    rw [List.map_cons, String.join_cons, String.append_assoc, linesIn_outcomeLines (h o (by simp)),
      ih fun o ho => h o (by simp [ho])]
    simp

/-! ## Statuses and indentation -/

theorem isVerdict_statusLine (o : CheckOutcome) : isVerdict (statusLine o) = true := by
  obtain ⟨name, passed, message⟩ := o
  have hp : "PASS ".toList <+: ("PASS " ++ name).toList := by simp
  have hf : "FAIL ".toList <+: ("FAIL " ++ name).toList := by simp
  unfold isVerdict
  rw [Bool.or_eq_true, startsWith_iff, startsWith_iff]
  cases passed with
  | true => exact .inl hp
  | false => exact .inr hf

theorem head?_of_isVerdict {line : String} (h : isVerdict line = true) :
    line.toList.head? = some 'P' ∨ line.toList.head? = some 'F' := by
  unfold isVerdict at h
  rw [Bool.or_eq_true, startsWith_iff, startsWith_iff] at h
  rcases h with ⟨rest, h⟩ | ⟨rest, h⟩
  · exact .inl (by rw [← h]; rfl)
  · exact .inr (by rw [← h]; rfl)

theorem isIndented_indent (s : String) : isIndented ("     " ++ s) = true := by
  unfold isIndented
  rw [startsWith_iff]
  simp

theorem isVerdict_of_isIndented {line : String} (h : isIndented line = true) :
    isVerdict line = false := by
  unfold isIndented at h
  rw [startsWith_iff] at h
  obtain ⟨rest, h⟩ := h
  rw [Bool.eq_false_iff]
  intro hv
  have hhead := head?_of_isVerdict hv
  rw [← h] at hhead
  revert hhead
  simp

theorem isVerdict_summary (os : List CheckOutcome) : isVerdict (summary os) = false := by
  have hl : (summary os).toList =
      (passedCount os).repr.toList ++ '/' :: (os.length.repr.toList ++ " checks passed".toList) :=
    toList_count _ _
  have hnot {c : Char} (hc : c.isDigit = false) (hne : c ≠ '/') :
      (summary os).toList.head? ≠ some c := by
    rw [hl]
    have hd := notMem_repr hc (passedCount os)
    cases hr : (passedCount os).repr.toList with
    | nil => simp [hne.symm]
    | cons d ds =>
      rw [hr] at hd
      simpa using fun h : d = c => hd (by simp [h])
  rw [Bool.eq_false_iff]
  intro hv
  rcases head?_of_isVerdict hv with h | h
  · exact hnot (by decide) (by decide) h
  · exact hnot (by decide) (by decide) h

/-! ## What a listing shows -/

section

variable {α β : Type} {l : List α} {f : α → β} {g : α → List β}

theorem map_sublist_flatMap_cons : (l.map f).Sublist (l.flatMap fun a => f a :: g a) := by
  induction l with
  | nil => exact .refl _
  | cons a l ih =>
    rw [List.map_cons, List.flatMap_cons, List.cons_append]
    exact (ih.trans (List.sublist_append_right _ _)).cons_cons _

theorem flatMap_cons_eq_map_iff :
    l.flatMap (fun a => f a :: g a) = l.map f ↔ ∀ a ∈ l, g a = [] := by
  induction l with
  | nil => simp
  | cons a l ih =>
    have hle : l.length ≤ (l.flatMap fun a => f a :: g a).length := by
      have hsub := (map_sublist_flatMap_cons (l := l) (f := f) (g := g)).length_le
      rwa [List.length_map] at hsub
    rw [List.flatMap_cons, List.map_cons, List.forall_mem_cons, ← ih, List.cons_append,
      List.cons.injEq]
    constructor
    · rintro ⟨-, h⟩
      -- the rest of the list is as long as it is without additions, so nothing is added here
      have hlen := congrArg List.length h
      rw [List.length_append, List.length_map] at hlen
      have hg : g a = [] := List.eq_nil_of_length_eq_zero (by omega)
      exact ⟨hg, by rwa [hg] at h⟩
    · rintro ⟨hg, h⟩
      exact ⟨rfl, by rw [hg, h]; rfl⟩

end

/-- The text is a listing of the outcomes. -/
structure Shows (text : String) (os : List CheckOutcome) : Prop where
  verdicts : (linesIn text).filter isVerdict = os.map statusLine
  indented : ∀ line ∈ (linesIn text).dropLast, isVerdict line = false → isIndented line = true
  count : (linesIn text).getLast? = some s!"{passedCount os}/{os.length} checks passed"

section

variable {os : List CheckOutcome} (h : ∀ o ∈ os, '\n' ∉ o.name.toList)
include h

theorem getLast?_linesIn_prettyOutcomes :
    (linesIn (prettyOutcomes os)).getLast? = some (summary os) := by
  rw [linesIn_prettyOutcomes h, List.getLast?_concat]

theorem dropLast_linesIn_prettyOutcomes : (linesIn (prettyOutcomes os)).dropLast =
    os.flatMap (fun o => statusLine o :: messageLines o) := by
  rw [linesIn_prettyOutcomes h, List.dropLast_concat]

/-- The statuses in a listing: those of the outcomes, and those that messages go on with. -/
theorem verdicts_prettyOutcomes : (linesIn (prettyOutcomes os)).filter isVerdict =
    os.flatMap (fun o => statusLine o :: (continued o).filter isVerdict) := by
  have hfilter (o : CheckOutcome) :
      (messageLines o).filter isVerdict = (continued o).filter isVerdict := by
    obtain ⟨hm, hc⟩ | ⟨first, hm⟩ := messageLines_eq o
    · rw [hm, hc]
    · rw [hm, List.filter_cons_of_neg]
      simp [isVerdict_of_isIndented (isIndented_indent first)]
  rw [linesIn_prettyOutcomes h, List.filter_append, List.filter_flatMap,
    List.filter_singleton, isVerdict_summary]
  simp [hfilter, isVerdict_statusLine]

theorem statusLines_sublist_verdicts :
    (os.map statusLine).Sublist ((linesIn (prettyOutcomes os)).filter isVerdict) := by
  rw [verdicts_prettyOutcomes h]
  exact map_sublist_flatMap_cons

/-- There are no others exactly when no message goes on with one. -/
theorem verdicts_eq_statusLines_iff :
    (linesIn (prettyOutcomes os)).filter isVerdict = os.map statusLine ↔
      ∀ o ∈ os, (continued o).filter isVerdict = [] := by
  rw [verdicts_prettyOutcomes h]
  exact flatMap_cons_eq_map_iff

/-- A listing shows its outcomes when every message goes on in indented lines, or not at all. -/
theorem shows_iff : Shows (prettyOutcomes os) os ↔
    ∀ o ∈ os, ∀ line ∈ continued o, isIndented line = true := by
  constructor
  · intro hs o ho line hline
    have hnone := (verdicts_eq_statusLines_iff h).1 hs.verdicts o ho
    refine hs.indented line ?_ (Bool.eq_false_iff.2 (List.filter_eq_nil_iff.1 hnone line hline))
    rw [dropLast_linesIn_prettyOutcomes h]
    refine List.mem_flatMap_of_mem ho (List.mem_cons_of_mem _ ?_)
    obtain ⟨-, hc⟩ | ⟨first, hm⟩ := messageLines_eq o
    · exact absurd (hc ▸ hline) List.not_mem_nil
    · exact hm ▸ List.mem_cons_of_mem _ hline
  · intro hi
    refine ⟨(verdicts_eq_statusLines_iff h).2 fun o ho => List.filter_eq_nil_iff.2 fun line hline => ?_,
      fun line hline hv => ?_, getLast?_linesIn_prettyOutcomes h⟩
    · rw [isVerdict_of_isIndented (hi o ho line hline)]
      decide
    · rw [dropLast_linesIn_prettyOutcomes h] at hline
      obtain ⟨o, ho, hline⟩ := List.mem_flatMap.1 hline
      rcases List.mem_cons.1 hline with rfl | hline
      · rw [isVerdict_statusLine] at hv
        cases hv
      · obtain ⟨hm, -⟩ | ⟨first, hm⟩ := messageLines_eq o
        · exact absurd (hm ▸ hline) List.not_mem_nil
        · rcases List.mem_cons.1 (hm ▸ hline) with rfl | hline
          · exact isIndented_indent first
          · exact hi o ho line hline

end

/-! ## The listing of all checks -/

theorem newline_notMem_names {server : Server σ} {ids : Nat → Uuid} {w : World σ} {clients : Clients} :
    ∀ o ∈ ((Check.runAll clients).run server ids w).1, '\n' ∉ o.name.toList := by
  intro o ho
  have hname : o.name ∈ ((Check.runAll clients).run server ids w).1.map (·.name) :=
    List.mem_map_of_mem ho
  rw [Run.names_runAll] at hname
  revert hname
  generalize o.name = name
  revert name
  decide

/-- **What the listing of all checks shows.** Whatever the server says, every check has its status in the
listing, in order, and the count is the last line. The statuses are the only ones, and everything else is
indented, exactly when the messages go on in indented lines, or not at all. -/
theorem runAll_shows_iff (clients : Clients) (server : Server σ) (ids : Nat → Uuid) (w : World σ) :
    ∃ os, ((Check.runAll clients).run server ids w).1 = os ∧
      (os.map statusLine).Sublist ((linesIn (prettyOutcomes os)).filter isVerdict) ∧
      (linesIn (prettyOutcomes os)).getLast? =
        some s!"{passedCount os}/{os.length} checks passed" ∧
      (Shows (prettyOutcomes os) os ↔
        ∀ o ∈ os, ∀ line ∈ continued o, isIndented line = true) := by
  have hn : ∀ o ∈ ((Check.runAll clients).run server ids w).1, '\n' ∉ o.name.toList :=
    newline_notMem_names
  exact ⟨_, rfl, statusLines_sublist_verdicts hn, getLast?_linesIn_prettyOutcomes hn, shows_iff hn⟩

/-- A server that refuses everything, and says on a line of its own that a check has passed. -/
def forger : Server Unit :=
  Method.refusing
    (.unmodeled "InternalErrorException" (some "try again\nPASS user_authentication"))

/-- The outcomes of all checks on it. -/
def forgedOutcomes : List CheckOutcome :=
  ((Check.runAll Trial.loopback).run forger (fun _ => 0) (.start ())).1

/-- The outcome of the last of them, with the line that is not its own. -/
def forgedOutcome : CheckOutcome :=
  ⟨"user_authentication", false,
    some "CreateUserPool failed with InternalErrorException: try again\nPASS user_authentication"⟩

theorem forgedOutcome_mem : forgedOutcome ∈ forgedOutcomes :=
  List.mem_of_getElem? (i := 6) (by rfl)

theorem passed_mem_continued : "PASS user_authentication" ∈ continued forgedOutcome := by
  have hl : continued forgedOutcome = ["PASS user_authentication"] := by rfl
  rw [hl]
  exact List.mem_singleton_self _

/-- No check passes, and the listing says that one does. -/
theorem passed_forged :
    forgedOutcomes.map (·.passed) = List.replicate 7 false ∧
      "PASS user_authentication" ∈ (linesIn (prettyOutcomes forgedOutcomes)).filter isVerdict ∧
      ¬ Shows (prettyOutcomes forgedOutcomes) forgedOutcomes := by
  have hn : ∀ o ∈ forgedOutcomes, '\n' ∉ o.name.toList := newline_notMem_names
  have hline := passed_mem_continued
  refine ⟨by rfl, ?_, fun hs => ?_⟩
  · rw [verdicts_prettyOutcomes hn]
    exact List.mem_flatMap_of_mem forgedOutcome_mem
      (List.mem_cons_of_mem _ (List.mem_filter.2 ⟨hline, by decide⟩))
  · have hindented := (shows_iff hn).1 hs forgedOutcome forgedOutcome_mem _ hline
    revert hindented
    decide

end Listing

end CloudRehearsal
