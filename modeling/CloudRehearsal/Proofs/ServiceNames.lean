import CloudRehearsal.Invocation
import CloudRehearsal.Proofs.ReadBack
import CloudRehearsal.Proofs.Spelling
import CloudRehearsal.Proofs.Utf8Reading
import Mathlib.Data.List.Forall2

/-!
The names of services and targets. A name on the command line is a service's identifier up to the case
of its ASCII letters, or `all` likewise, and never both; every other name is refused with the name in
the message. JSON takes identifiers as they are written and no others, so what JSON takes the command
line takes too, and means the same by it (`names_read_by_one_grammar`).
-/
namespace CloudRehearsal

open Text

/-! ## Up to the case of letters -/

namespace Text

/-- The same character, or the same ASCII letter in the other case. -/
def SameButCase (c d : Char) : Prop :=
  c = d ∨ ('A' ≤ c ∧ c ≤ 'Z' ∧ d.toNat = c.toNat + 32) ∨ ('A' ≤ d ∧ d ≤ 'Z' ∧ c.toNat = d.toNat + 32)

/-- The same text up to the case of ASCII letters. -/
def Matches (s t : String) : Prop := List.Forall₂ SameButCase s.toList t.toList

theorem toNat_lower {c : Char} (h : 'A' ≤ c ∧ c ≤ 'Z') : (lower c).toNat = c.toNat + 32 := by
  have hA : 65 ≤ c.toNat := h.1
  have hZ : c.toNat ≤ 90 := h.2
  rw [lower, if_pos h]
  exact Utf8.toNat_val_ofNat (by omega)

theorem lower_of_not_capital {c : Char} (h : ¬('A' ≤ c ∧ c ≤ 'Z')) : lower c = c := if_neg h

/-- A capital has a lower-case form that is no capital. So two characters have the same form exactly
when they are the same, or one is the capital of the other. -/
theorem lower_eq_lower_iff {c d : Char} : lower c = lower d ↔ SameButCase c d := by
  have hcapital : ∀ e : Char, ('A' ≤ e ∧ e ≤ 'Z') ↔ 65 ≤ e.toNat ∧ e.toNat ≤ 90 := fun _ => Iff.rfl
  rw [← Char.toNat_inj, SameButCase, ← and_assoc, ← and_assoc, ← Char.toNat_inj (c := c)]
  by_cases hc : 'A' ≤ c ∧ c ≤ 'Z' <;> by_cases hd : 'A' ≤ d ∧ d ≤ 'Z'
  · rw [toNat_lower hc, toNat_lower hd]
    simp only [hcapital] at hc hd ⊢
    omega
  · rw [toNat_lower hc, lower_of_not_capital hd]
    simp only [hcapital] at hc hd ⊢
    omega
  · rw [lower_of_not_capital hc, toNat_lower hd]
    simp only [hcapital] at hc hd ⊢
    omega
  · rw [lower_of_not_capital hc, lower_of_not_capital hd]
    simp only [hcapital] at hc hd ⊢
    omega

theorem sameLetters_iff_matches {s t : String} : sameLetters s t = true ↔ Matches s t := by
  rw [sameLetters, beq_iff_eq, ← List.forall₂_eq_eq_eq, List.forall₂_map_left_iff,
    List.forall₂_map_right_iff, Matches]
  simp only [lower_eq_lower_iff]

end Text

/-! ## Services by name -/

namespace Service

/-- No two identifiers differ in the case of letters alone. -/
theorem eq_of_matches {v w : Service} {s : String} (hv : Matches v.id s) (hw : Matches w.id s) :
    v = w := by
  rw [← sameLetters_iff_matches, sameLetters, beq_iff_eq] at hv hw
  have hid : v.id.toList.map lower = w.id.toList.map lower := hv.trans hw.symm
  revert hid
  cases v <;> cases w <;> decide

theorem ofId_eq_ok_iff {s : String} {v : Service} : ofId s = .ok v ↔ Matches v.id s := by
  constructor
  · intro h
    unfold ofId at h
    split at h
    · rename_i hfind
      cases h
      have hv := List.find?_some hfind
      exact sameLetters_iff_matches.1 hv
    · cases h
  · intro h
    unfold ofId
    split
    · rename_i w hfind
      have hw := List.find?_some hfind
      rw [eq_of_matches (sameLetters_iff_matches.1 hw) h]
    · rename_i hfind
      exact absurd (sameLetters_iff_matches.2 h) (List.find?_eq_none.1 hfind v v.mem_all)

theorem ofId_eq_error_iff {s : String} {e : ConfigError} :
    ofId s = .error e ↔ e = .unknownService s ∧ ∀ v : Service, ¬Matches v.id s := by
  simp only [← ofId_eq_ok_iff]
  unfold ofId
  split <;> simp [eq_comm]

/-- A character that only looks like a letter is not one. -/
example : ofId "DynamoDB" = .ok .tableStore ∧ ofId "ſ3" = .error (.unknownService "ſ3") := by decide

theorem ofId_id (v : Service) : ofId v.id = .ok v :=
  ofId_eq_ok_iff.2 (sameLetters_iff_matches.1 (beq_self_eq_true _))

theorem compact_toJson (v : Service) : v.toJson.compact = "\"" ++ v.id ++ "\"" := by
  cases v <;> decide

theorem not_matches_all {v : Service} {s : String} (h : Matches "all" s) : ¬Matches v.id s := by
  rw [← sameLetters_iff_matches, sameLetters, beq_iff_eq] at h ⊢
  rw [← h]
  cases v <;> decide

theorem ofId_upperCase_id (v : Service) : ofId (upperCase v.id) = .ok v := by
  cases v <;> decide

theorem upperCase_id_ne (v w : Service) : upperCase v.id ≠ w.jsonName := by
  cases v <;> cases w <;> decide

end Service

/-! ## Targets by name -/

namespace Invocation

theorem readTarget_all {s : String} (h : Matches "all" s) :
    readTarget s = .ok (.command (.sample .all)) := by
  rw [readTarget, SampleTarget.ofName, if_pos (sameLetters_iff_matches.2 h)]

theorem readTarget_of_not_all {s : String} (h : ¬Matches "all" s) :
    readTarget s =
      match Service.ofId s with
      | .ok v => .ok (.command (.sample (.one v)))
      | .error e => .error e.message := by
  rw [readTarget, SampleTarget.ofName, if_neg (fun hs => h (sameLetters_iff_matches.1 hs))]
  cases Service.ofId s <;> rfl

theorem readTarget_eq_all_iff {s : String} :
    readTarget s = .ok (.command (.sample .all)) ↔ Matches "all" s := by
  by_cases h : Matches "all" s
  · simp only [readTarget_all h, h]
  · rw [readTarget_of_not_all h]
    cases Service.ofId s <;> simp [h]

theorem readTarget_eq_one_iff {s : String} {v : Service} :
    readTarget s = .ok (.command (.sample (.one v))) ↔ Service.ofId s = .ok v := by
  by_cases h : Matches "all" s
  · rw [readTarget_all h, Service.ofId_eq_ok_iff]
    simp [Service.not_matches_all h]
  · rw [readTarget_of_not_all h]
    cases Service.ofId s <;> simp

theorem readTarget_eq_error_iff {s message : String} :
    readTarget s = .error message ↔
      ¬Matches "all" s ∧ ∃ e, Service.ofId s = .error e ∧ message = e.message := by
  by_cases h : Matches "all" s
  · simp [readTarget_all h, h]
  · rw [readTarget_of_not_all h]
    cases Service.ofId s <;> simp [h, eq_comm]

theorem sample_of_readTarget {s : String} {setting : Setting} (h : readTarget s = .ok setting) :
    ∃ target, setting = .command (.sample target) := by
  unfold readTarget at h
  split at h <;> cases h
  exact ⟨_, rfl⟩

end Invocation

/-! ## Services in JSON -/

/-- A text is one JSON string for `s`, in some spelling, with any spaces around it. -/
def Json.HoldsString (text s : String) : Prop :=
  ∃ before ps after, text.toList = spaces before ++ (spelled ps ++ spaces after) ∧
    Piece.text? ps = some s.toList

theorem Json.exists_holdsString (s : String) : ∃ text, HoldsString text s := by
  obtain ⟨ps, -, hps⟩ := exists_spelled_written s
  exact ⟨String.ofList (spelled ps), [], ps, [], by simp [spaces], hps⟩

namespace Service

open Json

theorem named_eq_ok_iff {s : String} {v : Service} : named s = .ok v ↔ s = v.jsonName := by
  constructor
  · intro h
    unfold named at h
    split at h
    · rename_i hfind
      cases h
      have hv := List.find?_some hfind
      exact (beq_iff_eq.1 hv).symm
    · cases h
  · rintro rfl
    exact named_jsonName v

theorem named_eq_error {s : String} (h : ∀ v : Service, s ≠ v.jsonName) : named s = .error .otherForm := by
  cases hs : named s with
  | ok v => exact absurd (named_eq_ok_iff.1 hs) (h v)
  | error e =>
    unfold named at hs
    split at hs <;> cases hs
    rfl

theorem ofJson_of_holdsString {text s : String} (h : HoldsString text s) : ofJson text = named s := by
  obtain ⟨before, ps, after, htext, hps⟩ := h
  have hstring : string (ps.flatMap Piece.chars ++ '"' :: spaces after) = .ok (s, spaces after) :=
    string_spelled_eq_ok_iff.2 ⟨hps, rfl⟩
  have hend := atEnd_spaces after
  rw [ofJson, htext, read, skipSpaces_spaces, spelled_append, skipSpaces_cons (by decide)]
  simp only [if_pos, hstring]
  show ((named s >>= fun v => pure (v, spaces after)) >>= fun p => atEnd p.2 >>= fun _ => pure p.1) = _
  cases named s with
  | error e => rfl
  | ok v => simp only [bind, Except.bind, pure, Except.pure, hend]

/-- A text that is taken for a service is a JSON string for its identifier, or it is an object. -/
theorem holdsString_of_ofJson {text : String} {v : Service} (h : ofJson text = .ok v)
    (hobject : (skipSpaces text.toList).head? ≠ some '\x7b') : HoldsString text v.id := by
  obtain ⟨⟨v', rest⟩, hread, hrest⟩ := bind_eq_ok_iff.1 h
  obtain ⟨u, hend, hv⟩ := bind_eq_ok_iff.1 hrest
  cases hv
  unfold read at hread
  split at hread
  · cases hread
  rename_i c cs hcs
  split at hread
  · subst c
    obtain ⟨⟨s, rest'⟩, hstring, hname⟩ := bind_eq_ok_iff.1 hread
    obtain ⟨v', hnamed, hv⟩ := bind_eq_ok_iff.1 hname
    cases hv
    obtain ⟨ps, hps, htext⟩ := exists_pieces_of_string hstring
    obtain ⟨before, hbefore⟩ := exists_spaces text.toList
    obtain ⟨after, rfl⟩ := spaces_of_atEnd hend
    refine ⟨before, ps, after, ?_, by rw [htext, named_eq_ok_iff.1 hnamed, jsonName_eq_id]⟩
    rw [spelled_append, hps, ← hcs, hbefore]
  · split at hread
    · subst c
      exact absurd (by rw [hcs]; rfl) hobject
    · cases hread

end Service

/-- **Names are read by one grammar.** A service is read from a name exactly when the name is its
identifier up to the case of ASCII letters, and from no name are two; any other name is refused and
handed back unchanged. A target is all services when its name is `all` likewise, is one service exactly
when that service is read from the name, and else is refused with the message of the refusal; no name
is taken both ways. What is written for a service, as a text and in JSON, is its identifier, which is
read back. A JSON string that is taken for a service holds a name that is read as the same service, but
every service has a name that is read and that is refused in JSON. -/
theorem names_read_by_one_grammar :
    (∀ s v, Service.ofId s = .ok v ↔ Matches v.id s) ∧
    (∀ s (v w : Service), Matches v.id s → Matches w.id s → v = w) ∧
    (∀ s e, Service.ofId s = .error e ↔ e = .unknownService s ∧ ∀ v : Service, ¬Matches v.id s) ∧
    (∀ s, Invocation.readTarget s = .ok (.command (.sample .all)) ↔ Matches "all" s) ∧
    (∀ s v, Invocation.readTarget s = .ok (.command (.sample (.one v))) ↔ Service.ofId s = .ok v) ∧
    (∀ s message, Invocation.readTarget s = .error message ↔
      ¬Matches "all" s ∧ ∃ e, Service.ofId s = .error e ∧ message = e.message) ∧
    (∀ s setting, Invocation.readTarget s = .ok setting →
      ∃ target, setting = .command (.sample target)) ∧
    (∀ s (v : Service), ¬(Matches "all" s ∧ Matches v.id s)) ∧
    (∀ v : Service, Service.ofId v.id = .ok v ∧ v.toJson.compact = "\"" ++ v.id ++ "\"") ∧
    (∀ text s v, Json.HoldsString text s → Service.ofJson text = .ok v → Service.ofId s = .ok v) ∧
    (∀ text v, Service.ofJson text = .ok v →
      (Json.skipSpaces text.toList).head? = some '\x7b' ∨ Json.HoldsString text v.id) ∧
    ∀ v, ∃ s, Service.ofId s = .ok v ∧ (∃ text, Json.HoldsString text s) ∧
      ∀ text, Json.HoldsString text s → Service.ofJson text = .error .otherForm := by
  refine ⟨fun s v => Service.ofId_eq_ok_iff, fun s v w => Service.eq_of_matches,
    fun s e => Service.ofId_eq_error_iff, fun s => Invocation.readTarget_eq_all_iff,
    fun s v => Invocation.readTarget_eq_one_iff, fun s message => Invocation.readTarget_eq_error_iff,
    fun s setting => Invocation.sample_of_readTarget, ?_, ?_, ?_, ?_, ?_⟩
  · rintro s v ⟨hall, hv⟩
    exact Service.not_matches_all hall hv
  · exact fun v => ⟨v.ofId_id, v.compact_toJson⟩
  · intro text s v htext h
    rw [Service.ofJson_of_holdsString htext, Service.named_eq_ok_iff] at h
    rw [h, v.jsonName_eq_id, Service.ofId_id]
  · exact fun text v h => Decidable.or_iff_not_imp_left.2 (Service.holdsString_of_ofJson h)
  · intro v
    refine ⟨upperCase v.id, v.ofId_upperCase_id, Json.exists_holdsString _, fun text htext => ?_⟩
    rw [Service.ofJson_of_holdsString htext, Service.named_eq_error v.upperCase_id_ne]

end CloudRehearsal
