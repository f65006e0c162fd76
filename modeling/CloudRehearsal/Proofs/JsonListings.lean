import CloudRehearsal.Listing
import CloudRehearsal.Proofs.JsonParse
import Mathlib.Data.Option.Basic

/-!
Reports and outcomes that are printed as JSON are all there (`Listing.json_holds_all`). The text is one
line of JSON, an array with one element for each of them, whatever the services have put into the
details and messages; and who parses it finds every report and every outcome again, in order.

What is in an element is looked up by the names of its members (`SampleReport.ofValue?`,
`CheckOutcome.ofValue?`), so nothing is assumed of how it was written.
-/
namespace CloudRehearsal

namespace Json

/-! ## Looking into a value -/

def text? : Json → Option String
  | text s => some s
  | _ => none

def bool? : Json → Option Bool
  | bool b => some b
  | _ => none

def items? : Json → Option (List Json)
  | list items => some items
  | _ => none

/-- The member of a name. -/
def member? (key : String) : Json → Option Json
  | record members => members.lookup key
  | _ => none

/-- A string, or null for none. -/
def optionalText? : Json → Option (Option String)
  | null => some none
  | text s => some (some s)
  | _ => none

end Json

/-- The step that a value describes. -/
def Step.ofValue? (v : Json) : Option Step := do
  return ⟨← (← v.member? "action").text?, ← (← v.member? "detail").text?⟩

/-- The report that a value describes. The service is known by its identifier. -/
def SampleReport.ofValue? (v : Json) : Option SampleReport := do
  let id ← (← v.member? "service").text?
  let service ← Service.all.find? (·.id == id)
  let steps ← (← v.member? "steps").items?
  return ⟨service, ← steps.mapM Step.ofValue?⟩

/-- The outcome that a value describes. -/
def CheckOutcome.ofValue? (v : Json) : Option CheckOutcome := do
  return ⟨← (← v.member? "name").text?, ← (← v.member? "passed").bool?,
    ← (← v.member? "message").optionalText?⟩

theorem Service.find?_id (s : Service) : Service.all.find? (·.id == s.id) = some s := by
  cases s <;> rfl

theorem SampleReport.ofValue?_toJson (r : SampleReport) : ofValue? r.toJson = some r := by
  obtain ⟨service, steps⟩ := r
  have hsteps : (steps.map fun s =>
      Json.record [("action", .text s.action), ("detail", .text s.detail)]).mapM Step.ofValue? =
      some steps := by
    induction steps with
    | nil => rfl
    | cons s steps ih =>
      rw [List.map_cons, List.mapM_cons, ih]
      rfl
  show (Service.all.find? (·.id == service.jsonName)).bind (fun s =>
    (List.mapM Step.ofValue? _).bind fun ss => some (SampleReport.mk s ss)) = _
  rw [service.jsonName_eq_id, Service.find?_id, hsteps]
  rfl

theorem CheckOutcome.ofValue?_toJson (o : CheckOutcome) : ofValue? o.toJson = some o := by
  obtain ⟨name, passed, message⟩ := o
  cases message <;> rfl

namespace Listing

/-- The text is one line of JSON, an array in which `decode` finds these things, in this order. -/
structure HoldsAll {α : Type} (decode : Json → Option α) (text : String) (things : List α) :
    Prop where
  not_empty : text ≠ ""
  /-- No control is left in the text, so no line break either. -/
  one_line : ∀ c ∈ text.toList, ' ' ≤ c
  is_json : Json.Valid text
  parsed : ∃ items, Json.parse text = .ok (.list items) ∧ items.map decode = things.map some

variable {α : Type}

/-- A list is printed so that it can be parsed again when its items can be decoded. -/
theorem holdsAll_compact {encode : α → Json} {decode : Json → Option α}
    (h : ∀ a, decode (encode a) = some a) (things : List α) :
    HoldsAll decode (Json.list (things.map encode)).compact things := by
  have hparse := Json.parse_compact (.list (things.map encode))
  have hmap : (things.map encode).map decode = things.map some := by
    rw [List.map_map, show decode ∘ encode = some from funext h]
  refine ⟨?_, ?_, Json.valid_of_parse hparse, things.map encode, hparse, hmap⟩
  · intro hempty
    have hlist := congrArg String.toList hempty
    rw [Json.compact, String.toList_ofList, Json.compactChars] at hlist
    cases hlist
  · intro c hc
    exact Json.space_le_of_mem_compact hc

theorem HoldsAll.unique {decode : Json → Option α} {text : String} {things things' : List α}
    (h : HoldsAll decode text things) (h' : HoldsAll decode text things') : things = things' := by
  obtain ⟨items, hparse, hdecode⟩ := h.parsed
  obtain ⟨items', hparse', hdecode'⟩ := h'.parsed
  rw [hparse] at hparse'
  cases hparse'
  rw [hdecode] at hdecode'
  exact List.map_injective_iff.2 (Option.some_injective α) hdecode'

/-- **What is printed as JSON is complete and can be parsed again**, whatever the reports and the outcomes
hold. So two lists that differ are never printed alike. -/
theorem json_holds_all :
    (∀ rs : List SampleReport, HoldsAll SampleReport.ofValue? (reports rs .json) rs) ∧
    (∀ os : List CheckOutcome, HoldsAll CheckOutcome.ofValue? (outcomes os .json) os) ∧
    (Function.Injective fun rs : List SampleReport => reports rs .json) ∧
    Function.Injective fun os : List CheckOutcome => outcomes os .json := by
  have hreports : ∀ rs : List SampleReport, HoldsAll SampleReport.ofValue? (reports rs .json) rs :=
    fun rs => holdsAll_compact SampleReport.ofValue?_toJson rs
  have houtcomes : ∀ os : List CheckOutcome,
      HoldsAll CheckOutcome.ofValue? (outcomes os .json) os :=
    fun os => holdsAll_compact CheckOutcome.ofValue?_toJson os
  refine ⟨hreports, houtcomes, ?_, ?_⟩
  · intro rs rs' h
    have h' := hreports rs'
    rw [← show reports rs .json = reports rs' .json from h] at h'
    exact (hreports rs).unique h'
  · intro os os' h
    have h' := houtcomes os'
    rw [← show outcomes os .json = outcomes os' .json from h] at h'
    exact (houtcomes os).unique h'

-- a message of two lines, with quotes, is written on one
example : outcomes [⟨"topic_publish", false, some "no \"topic\"\n"⟩] .json =
    "[\x7b\"name\":\"topic_publish\",\"passed\":false," ++
      "\"message\":\"no \\\"topic\\\"\\n\"\x7d]" := by decide

end Listing

end CloudRehearsal
