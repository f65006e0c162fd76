import CloudRehearsal.AuthTokens
import CloudRehearsal.EmailMessage
import CloudRehearsal.Proofs.WrittenText
import CloudRehearsal.Service

/-!
Messages, tokens and services are read back from their own JSON, so different values have different
texts (`texts_read_back`).

A record is written as the data of its fields, each field once. One lemma covers every record of this
kind (`Json.readRecord_compact`): a reader of the same fields finds all the data again, each in its
form. A token that is missing is written as null, which no string is, so it stays apart from one that
is empty.
-/
namespace CloudRehearsal

namespace Json

/-! ## The data of a field -/

namespace Datum

/-- The form of a field that holds this. -/
def form : Datum → Form
  | text _ => .text
  | optional _ => .optional
  | texts _ => .texts

/-- How the data of a field is written. -/
def toJson : Datum → Json
  | text s => .text s
  | optional s => Json.optional .text s
  | texts ss => .list (ss.map .text)

end Datum

theorem readText_written (s : String) (rest : List Char) :
    readText (written s ++ rest) = .ok (s, rest) := by
  rw [written_append]
  exact string_written s rest

theorem readOptional_compactChars (s : Option String) (rest : List Char) :
    readOptional (compactChars (Json.optional .text s) ++ rest) = .ok (s, rest) := by
  cases s with
  | none =>
    rw [Json.optional, compactChars]
    rfl
  | some s =>
    rw [Json.optional, compactChars, readOptional]
    split
    · rename_i rest' h
      rw [written_append, skipSpaces_cons (by decide)] at h
      cases h
    · rw [readText_written]
      rfl

theorem textsFrom_itemsOn (ss : List String) (first : Bool) (found : List String)
    (rest : List Char) :
    textsFrom first found (itemsOn first (ss.map .text) ++ rest) =
      .ok (found.reverse ++ ss, rest) := by
  induction ss generalizing first found with
  | nil =>
    have hnext : next ']' first (']' :: rest) = .ok (.closed rest) :=
      next_closed (by decide) first rest
    rw [List.map_nil, itemsOn, List.singleton_append, textsFrom]
    split <;> rename_i h <;> rw [hnext] at h <;> cases h
    rw [List.append_nil]
  | cons s ss ih =>
    have hnext := next_compactChars first (.text s) (itemsOn false (ss.map .text) ++ rest)
    rw [List.map_cons, itemsOn, List.append_assoc, List.append_assoc, textsFrom]
    split <;> rename_i h <;> rw [hnext] at h <;> cases h
    have hread := readText_written s (itemsOn false (ss.map .text) ++ rest)
    split <;> rename_i h <;> rw [compactChars, hread] at h <;> cases h
    rw [ih false (s :: found)]
    simp

theorem readTexts_compactChars (ss : List String) (rest : List Char) :
    readTexts (compactChars (.list (ss.map .text)) ++ rest) = .ok (ss, rest) := by
  have hspaces : isSpace '[' = false := by decide
  rw [compactChars, compactItems_eq, List.cons_append, readTexts, skipSpaces_cons hspaces]
  exact textsFrom_itemsOn ss true [] rest

theorem read_toJson (d : Datum) (rest : List Char) :
    d.form.read (compactChars d.toJson ++ rest) = .ok (d, rest) := by
  cases d with
  | text s =>
    have h := readText_written s rest
    simp only [Datum.form, Datum.toJson, Form.read, compactChars, h]
    rfl
  | optional s =>
    have h := readOptional_compactChars s rest
    simp only [Datum.form, Datum.toJson, Form.read, h]
    rfl
  | texts ss =>
    have h := readTexts_compactChars ss rest
    simp only [Datum.form, Datum.toJson, Form.read, h]
    rfl

/-! ## Records -/

/-- The members of a record, from the data of its fields. -/
def membersOf (data : List (String × Datum)) : List (String × Json) :=
  data.map fun (key, d) => (key, d.toJson)

theorem member_toJson {fields : Fields} {found : Found} {key : String} {d : Datum}
    (hfield : fields.lookup key = some d.form) (hnew : found.lookup key = none)
    (rest : List Char) :
    member fields found key (':' :: (compactChars d.toJson ++ rest)) =
      .ok ((key, d) :: found, rest) := by
  simp only [member, hfield, hnew, Option.isSome_none, Bool.false_eq_true, if_false, colon_cons,
    read_toJson]
  rfl

/-- Every field that has been written is found, and nothing else. -/
theorem membersFrom_membersOn {fields : Fields} (data : List (String × Datum)) (first : Bool)
    (found : Found) (hfields : ∀ p ∈ data, fields.lookup p.1 = some p.2.form)
    (hnew : ∀ p ∈ data, found.lookup p.1 = none) (honce : (data.map Prod.fst).Nodup)
    (rest : List Char) :
    membersFrom fields first found (membersOn first (membersOf data) ++ rest) =
      .ok (data.reverse ++ found, rest) := by
  induction data generalizing first found with
  | nil =>
    have hnext : next '\x7d' first ('\x7d' :: rest) = .ok (.closed rest) :=
      next_closed (by decide) first rest
    rw [membersOf, List.map_nil, membersOn, List.singleton_append, membersFrom]
    split <;> rename_i h <;> rw [hnext] at h <;> cases h
    rfl
  | cons p data ih =>
    obtain ⟨key, d⟩ := p
    rw [List.map_cons, List.nodup_cons] at honce
    have hafter := member_toJson (hfields (key, d) (by simp)) (hnew (key, d) (by simp))
      (membersOn false (membersOf data) ++ rest)
    have hnext := next_written first key
      (':' :: (compactChars d.toJson ++ (membersOn false (membersOf data) ++ rest)))
    have hnew' : ∀ q ∈ data, List.lookup q.1 ((key, d) :: found) = none := by
      intro q hq
      have hne : q.1 ≠ key := by
        intro he
        exact honce.1 (List.mem_map.2 ⟨q, hq, he⟩)
      rw [List.lookup_cons, beq_false_of_ne hne]
      exact hnew q (by simp [hq])
    have hrest := ih false ((key, d) :: found) (fun q hq => hfields q (by simp [hq])) hnew' honce.2
    rw [membersOf, List.map_cons, membersOn, List.append_assoc, List.append_assoc, List.cons_append,
      List.append_assoc, membersFrom]
    split <;> rename_i h <;> rw [← membersOf, hnext] at h <;> cases h
    split <;> rename_i h <;> rw [name_written] at h <;> cases h
    split <;> rename_i h <;> rw [hafter] at h <;> cases h
    rw [hrest]
    simp

/-- **A record is read back** when its data are its fields, each written once. -/
theorem readRecord_compact {α : Type} {fields : Fields} {make : Found → Option α}
    (data : List (String × Datum)) {a : α}
    (hfields : ∀ p ∈ data, fields.lookup p.1 = some p.2.form) (honce : (data.map Prod.fst).Nodup)
    (hmake : make data.reverse = some a) :
    readRecord fields make (Json.record (membersOf data)).compact = .ok a := by
  have hspaces : isSpace '\x7b' = false := by decide
  have h := membersFrom_membersOn data true [] hfields (fun _ _ => rfl) honce []
  rw [List.append_nil, List.append_nil] at h
  rw [readRecord, readFields, compact, String.toList_ofList, compactChars, compactMembers_eq,
    skipSpaces_cons hspaces]
  simp only [if_pos, h, hmake]
  rfl

end Json

/-! ## Messages, tokens and services -/

theorem EmailMessage.ofJson_toJson (m : EmailMessage) : ofJson m.toJson.compact = .ok m := by
  refine Json.readRecord_compact [("source", .text m.source), ("to", .texts m.recipients),
    ("subject", .text m.subject), ("body", .text m.body)] ?_ ?_ ?_
  · simp [fields, Json.Datum.form, List.lookup_cons]
  · simp
  · rfl

theorem AuthTokens.ofJson_toJson (t : AuthTokens) : ofJson t.toJson.compact = .ok t := by
  refine Json.readRecord_compact [("access_token", .text t.accessToken),
    ("id_token", .optional t.idToken), ("refresh_token", .optional t.refreshToken)] ?_ ?_ ?_
  · simp [fields, Json.Datum.form, List.lookup_cons]
  · simp
  · rfl

namespace Service

theorem named_jsonName (s : Service) : named s.jsonName = .ok s := by cases s <;> rfl

theorem ofJson_toJson (s : Service) : ofJson s.toJson.compact = .ok s := by
  have hstring := Json.string_written s.jsonName []
  have hread : read (Json.written s.jsonName) = .ok (s, []) := by
    rw [← List.append_nil (Json.written s.jsonName), Json.written_append, read,
      Json.skipSpaces_cons (by decide)]
    simp only [if_pos, hstring]
    show (named s.jsonName >>= fun service => pure (service, [])) = _
    rw [named_jsonName]
    rfl
  rw [ofJson, toJson, Json.compact, String.toList_ofList, Json.compactChars, hread]
  rfl

end Service

/-- A value that is read back from its text has a text of its own. -/
theorem Json.injective_of_reads_back {α : Type} {write : α → String} {read : String → Except Fault α}
    (h : ∀ a, read (write a) = .ok a) : Function.Injective write := by
  intro a b hab
  have hb := h b
  rw [← hab, h a] at hb
  exact Except.ok.inj hb

/-- **What is serialized is read back unchanged**, whatever characters the strings hold: every message,
with any number of recipients, every set of tokens, with those that are missing apart from those that
are empty, and every service. So different values have different texts. -/
theorem texts_read_back :
    (∀ m : EmailMessage, EmailMessage.ofJson m.toJson.compact = .ok m) ∧
    (∀ t : AuthTokens, AuthTokens.ofJson t.toJson.compact = .ok t) ∧
    (∀ s : Service, Service.ofJson s.toJson.compact = .ok s) ∧
    (Function.Injective fun m : EmailMessage => m.toJson.compact) ∧
    (Function.Injective fun t : AuthTokens => t.toJson.compact) ∧
    Function.Injective fun s : Service => s.toJson.compact := by
  refine ⟨EmailMessage.ofJson_toJson, AuthTokens.ofJson_toJson, Service.ofJson_toJson, ?_, ?_, ?_⟩
  · exact Json.injective_of_reads_back EmailMessage.ofJson_toJson
  · exact Json.injective_of_reads_back AuthTokens.ofJson_toJson
  · exact Json.injective_of_reads_back Service.ofJson_toJson

end CloudRehearsal
