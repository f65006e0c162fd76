import CloudRehearsal.Proofs.Connecting
import Mathlib.Data.List.DropRight
import Mathlib.Data.List.TakeWhile

/-!
The text that is checked and the text that clients go by. A URL is read without the spaces and controls
around it and the line breaks and tabs inside it; what is left of a text is bare (`Url.Bare`), and the
text is that with padding (`Url.Padded`). The two determine what is left (`Url.stripped_eq_iff`).

An endpoint is checked by what is left of its URL, and the clients go by all of it. So they go by what
was checked exactly when the URL is bare (`Clients.forwarded_is_checked_iff`).
-/
namespace CloudRehearsal

namespace Url

/-! ## Padding -/

/-- There is nothing to be dropped: no space or control at an end, and no line break or tab. -/
structure Bare (cs : List Char) : Prop where
  first : ∀ h : cs ≠ [], isMargin (cs.head h) = false
  last : ∀ h : cs ≠ [], isMargin (cs.getLast h) = false
  unbroken : ∀ c ∈ cs, isBreak c = false

instance (cs : List Char) : Decidable (Bare cs) :=
  decidable_of_iff
    ((∀ h : cs ≠ [], isMargin (cs.head h) = false) ∧ (∀ h : cs ≠ [], isMargin (cs.getLast h) = false) ∧
      cs.all (! isBreak ·) = true)
    ⟨fun ⟨first, last, unbroken⟩ => ⟨first, last, by simpa using unbroken⟩,
      fun h => ⟨h.first, h.last, by simpa using h.unbroken⟩⟩

/-- A text with characters added that do not count: spaces and controls at the ends, line breaks and
tabs anywhere. -/
inductive Padded (core : List Char) : List Char → Prop where
  | refl : Padded core core
  | front {c : Char} {cs : List Char} (hc : isMargin c = true) (h : Padded core cs) :
      Padded core (c :: cs)
  | back {c : Char} {cs : List Char} (hc : isMargin c = true) (h : Padded core cs) :
      Padded core (cs ++ [c])
  | inside {c : Char} {before after : List Char} (hc : isBreak c = true)
      (h : Padded core (before ++ after)) : Padded core (before ++ c :: after)

variable {c : Char} {cs ds core : List Char}

/-- What is dropped anywhere is dropped at an end. -/
theorem isMargin_of_isBreak (h : isBreak c = true) : isMargin c = true := by
  simp only [isBreak, Bool.or_eq_true, beq_iff_eq] at h
  rcases h with (rfl | rfl) | rfl <;> rfl

namespace Padded

theorem margins_front {ms : List Char} (hm : ∀ c ∈ ms, isMargin c = true) (h : Padded core cs) :
    Padded core (ms ++ cs) := by
  induction ms with
  | nil => exact h
  | cons c ms ih =>
    rw [List.forall_mem_cons] at hm
    exact .front hm.1 (ih hm.2)

theorem margins_back {ms : List Char} (hm : ∀ c ∈ ms, isMargin c = true) (h : Padded core cs) :
    Padded core (cs ++ ms) := by
  induction ms generalizing cs with
  | nil =>
    rw [List.append_nil]
    exact h
  | cons c ms ih =>
    rw [List.forall_mem_cons] at hm
    rw [List.append_cons]
    exact ih hm.2 (.back hm.1 h)

theorem breaks_inside {before : List Char} (h : Padded core (before ++ cs.filter (! isBreak ·))) :
    Padded core (before ++ cs) := by
  -- what has been gone through is moved to `before`
  induction cs generalizing before with
  | nil => exact h
  | cons c cs ih =>
    by_cases hc : isBreak c = true
    · rw [List.filter_cons_of_neg (by simp [hc])] at h
      exact .inside hc (ih h)
    · rw [List.filter_cons_of_pos (by simp [hc]), List.append_cons] at h
      rw [List.append_cons]
      exact ih h

end Padded

/-! ## What is left of a text -/

theorem dropWhile_filter (cs : List Char) :
    (cs.filter (! isBreak ·)).dropWhile isMargin = (cs.dropWhile isMargin).filter (! isBreak ·) := by
  induction cs with
  | nil => rfl
  | cons c cs ih =>
    by_cases hb : isBreak c = true
    · -- the filter drops it on one side, and on the other it goes as a margin
      simp [hb, isMargin_of_isBreak hb, ih]
    · by_cases hm : isMargin c = true
      · simp [hb, hm, ih]
      · simp [hb, hm]

/-- The breaks may go first as well. -/
theorem stripped_breaks_first (cs : List Char) :
    stripped cs = ((cs.filter (! isBreak ·)).dropWhile isMargin).rdropWhile isMargin := by
  rw [stripped, List.rdropWhile, dropWhile_filter, ← List.filter_reverse, dropWhile_filter,
    List.filter_reverse]

theorem bare_stripped (cs : List Char) : Bare (stripped cs) := by
  rw [stripped_breaks_first]
  have hp := List.rdropWhile_prefix isMargin ((cs.filter (! isBreak ·)).dropWhile isMargin)
  refine ⟨fun h => ?_, fun h => ?_, fun c hc => ?_⟩
  · rw [hp.head h]
    exact List.head_dropWhile_not _ _
  · simpa using List.rdropWhile_last_not _ _ h
  · have hmem := (List.dropWhile_sublist _).subset (hp.subset hc)
    simpa using (List.mem_filter.1 hmem).2

theorem stripped_of_bare (h : Bare cs) : stripped cs = cs := by
  have hbreaks : cs.filter (! isBreak ·) = cs :=
    List.filter_eq_self.2 fun c hc => by simp [h.unbroken c hc]
  have hfront : cs.dropWhile isMargin = cs := by
    cases cs with
    | nil => rfl
    | cons c cs =>
      have hc : isMargin c = false := h.first (List.cons_ne_nil c cs)
      exact List.dropWhile_cons_of_neg (by simp [hc])
  have hback : cs.rdropWhile isMargin = cs :=
    List.rdropWhile_eq_self_iff.2 fun hne => by simp [h.last hne]
  rw [stripped_breaks_first, hbreaks, hfront, hback]

theorem stripped_cons (hc : isMargin c = true) (cs : List Char) : stripped (c :: cs) = stripped cs := by
  rw [stripped, List.dropWhile_cons_of_pos hc, stripped]

theorem stripped_concat (hc : isMargin c = true) (cs : List Char) :
    stripped (cs ++ [c]) = stripped cs := by
  -- after nothing but margins the front takes it along, and otherwise the back does
  have h : ((cs ++ [c]).dropWhile isMargin).rdropWhile isMargin =
      (cs.dropWhile isMargin).rdropWhile isMargin := by
    rw [List.dropWhile_append]
    cases hcs : cs.dropWhile isMargin with
    | nil => simp [hc]
    | cons d ds => exact List.rdropWhile_concat_pos _ _ _ hc
  exact congrArg (List.filter (! isBreak ·)) h

theorem stripped_insert (hc : isBreak c = true) (before after : List Char) :
    stripped (before ++ c :: after) = stripped (before ++ after) := by
  rw [stripped_breaks_first, stripped_breaks_first, List.filter_append, List.filter_append,
    List.filter_cons_of_neg (by simp [hc])]

theorem Padded.stripped_eq (h : Padded core cs) : stripped cs = stripped core := by
  induction h with
  | refl => rfl
  | front hc _ ih => exact (stripped_cons hc _).trans ih
  | back hc _ ih => exact (stripped_concat hc _).trans ih
  | inside hc _ ih => exact (stripped_insert hc _ _).trans ih

theorem padded_stripped (cs : List Char) : Padded (stripped cs) cs := by
  have hfront : ∀ c ∈ cs.takeWhile isMargin, isMargin c = true := fun c hc => List.mem_takeWhile_imp hc
  have hback : ∀ c ∈ (cs.dropWhile isMargin).rtakeWhile isMargin, isMargin c = true :=
    fun c hc => List.mem_rtakeWhile_imp hc
  have h : Padded (stripped cs) ([] ++ (cs.dropWhile isMargin).rdropWhile isMargin) :=
    .breaks_inside .refl
  have h' := (h.margins_back hback).margins_front hfront
  rwa [List.nil_append, List.rdropWhile_append_rtakeWhile, List.takeWhile_append_dropWhile] at h'

/-- **What is left of a text is the bare text that it pads.** -/
theorem stripped_eq_iff : stripped cs = core ↔ Bare core ∧ Padded core cs := by
  constructor
  · rintro rfl
    exact ⟨bare_stripped cs, padded_stripped cs⟩
  · rintro ⟨hb, hp⟩
    rw [hp.stripped_eq, stripped_of_bare hb]

-- a space counts inside the text, and a line break counts nowhere
example : stripped " a b\nc\t".toList = "a bc".toList := by decide

theorem parse_congr {s t : String} (h : stripped s.toList = stripped t.toList) : parse s = parse t := by
  unfold parse
  rw [h]

end Url

/-! ## What clients go by -/

theorem Endpoint.check_withUrl {e : Endpoint} {text : String} (h : Url.parse text = Url.parse e.url)
    (accepted : e.check = .ok ()) : (e.withUrl text).check = .ok () := by
  obtain ⟨url, hp, hs, hr⟩ := Endpoint.check_eq_ok_iff.1 accepted
  exact Endpoint.check_eq_ok_iff.2 ⟨url, h.trans hp, hs, hr⟩

namespace Clients

/-- **Clients go by what was checked exactly when the URL is bare.** For any endpoint that is accepted:
what is checked is the bare text that its URL pads, and is at a URL of the web; the clients go by all of
the URL. That is what was checked exactly when the URL is bare itself. Any other padding of the same text
is accepted too, and clients go by that. -/
theorem forwarded_is_checked_iff {e : Endpoint} {c : Clients} (h : ofEndpoint e = .ok c) :
    c.settings.endpointUrl = e.url ∧
      ∃ checked : String, Url.Bare checked.toList ∧ Url.Padded checked.toList e.url.toList ∧
        Url.parse e.url = Url.parse checked ∧
        (∃ url, Url.parse checked = .ok url ∧ (url.scheme = "http" ∨ url.scheme = "https")) ∧
        (c.settings.endpointUrl = checked ↔ Url.Bare c.settings.endpointUrl.toList) ∧
        ∀ text : String, Url.Padded checked.toList text.toList →
          ∃ c', ofEndpoint (e.withUrl text) = .ok c' ∧ c'.settings.endpointUrl = text := by
  obtain rfl := ofEndpoint_eq_ok_iff.1 h
  obtain ⟨url, hp, hs, -⟩ := Endpoint.check_eq_ok_iff.1 c.accepted
  obtain ⟨checked, hchecked⟩ : ∃ s : String, s.toList = Url.stripped c.endpoint.url.toList :=
    ⟨_, String.toList_ofList⟩
  obtain ⟨hbare, hpadded⟩ := Url.stripped_eq_iff.1 hchecked.symm
  have hparse {text : String} (ht : Url.Padded checked.toList text.toList) :
      Url.parse text = Url.parse checked := Url.parse_congr ht.stripped_eq
  refine ⟨rfl, checked, hbare, hpadded, hparse hpadded, ⟨url, ?_, hs⟩, ⟨fun heq => ?_, fun hb => ?_⟩,
    fun text ht => ?_⟩
  · rw [← hparse hpadded, hp]
  · rw [heq]
    exact hbare
  · exact String.toList_inj.1 (hchecked.trans (Url.stripped_of_bare hb)).symm
  · have accepted := Endpoint.check_withUrl ((hparse ht).trans (hparse hpadded).symm) c.accepted
    exact ⟨_, ofEndpoint_ok accepted, rfl⟩

/-- A URL without padding is what was checked. -/
theorem loopback_forwarded_whole :
    ∃ c, ofEndpoint ⟨"http://[::1]:5000", "us-east-1", none⟩ = .ok c ∧
      ∃ checked : String, Url.Padded checked.toList "http://[::1]:5000".toList ∧
        c.settings.endpointUrl = checked := by
  have accepted : (⟨"http://[::1]:5000", "us-east-1", none⟩ : Endpoint).check = .ok () :=
    Endpoint.accepted_of_isOk (by decide +kernel)
  obtain ⟨hurl, checked, -, hpadded, -, -, hiff, -⟩ := forwarded_is_checked_iff (ofEndpoint_ok accepted)
  refine ⟨_, ofEndpoint_ok accepted, checked, hpadded, hiff.2 ?_⟩
  rw [hurl]
  decide

/-- A URL with the end of a line after it is accepted, and that is what the clients go by. -/
theorem line_break_forwarded :
    ∃ c, ofEndpoint ⟨"http://[::1]:5000\n", "us-east-1", none⟩ = .ok c ∧
      c.settings.endpointUrl = "http://[::1]:5000\n" ∧
      ¬ Url.Bare c.settings.endpointUrl.toList := by
  have accepted : (⟨"http://[::1]:5000\n", "us-east-1", none⟩ : Endpoint).check = .ok () :=
    Endpoint.accepted_of_isOk (by decide +kernel)
  have hpadded : ¬ Url.Bare "http://[::1]:5000\n".toList := by decide
  exact ⟨_, ofEndpoint_ok accepted, rfl, hpadded⟩

end Clients

end CloudRehearsal
