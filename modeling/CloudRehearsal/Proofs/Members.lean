import CloudRehearsal.Proofs.FieldValues

/-!
Reading the members of an object, in any order and among any others. `Gathers` says what members come to
one after the other, and is what the reader does (`membersFrom_chars_iff`). Name by name, it comes to
this: of each field there is one member or none, whatever stands between (`Gathers.of_new`,
`exists_gathers`).
-/
namespace CloudRehearsal.Json

/-! ## One member after the other -/

/-- A member of an object: its name is a text, in any spelling. -/
structure Member where
  label : Label
  name : String
  spells : Piece.text? label.name = some name.toList
  value : Layout

namespace Member

/-- The text of members. -/
def chars (first : Bool) (ms : List Member) : List Char :=
  Layout.membersChars first (ms.map fun m => (m.label, m.value))

/-- The members of a name. -/
def named (key : String) (ms : List Member) : List Member := ms.filter fun m => m.name == key

theorem name_spelled (m : Member) (rest : List Char) :
    Json.name (spelled m.label.name ++ rest) = .ok (m.name, rest) := by
  rw [spelled_append]
  exact string_spelled_eq_ok_iff.2 ⟨m.spells, rfl⟩

end Member

/-- What reading members comes to: `Gathers fields found ms found'` when the members add to `found` what
is then `found'`. A member of another name adds nothing; a field must be new and hold a value of its
form. -/
inductive Gathers (fields : Fields) : Found → List Member → Found → Prop
  | nil (found : Found) : Gathers fields found [] found
  | other {found found' : Found} {m : Member} {ms : List Member}
      (hname : fields.lookup m.name = none) (hms : Gathers fields found ms found') :
      Gathers fields found (m :: ms) found'
  | field {found found' : Found} {m : Member} {ms : List Member} {d : Datum}
      (hname : fields.lookup m.name = some d.form) (hnew : found.lookup m.name = none)
      (hvalue : m.value.value? = some d.toJson)
      (hms : Gathers fields ((m.name, d) :: found) ms found') :
      Gathers fields found (m :: ms) found'

theorem membersFrom_closed {first : Bool} {cs rest : List Char}
    (h : next '\x7d' first cs = .ok (.closed rest)) (fields : Fields) (found : Found) :
    membersFrom fields first found cs = .ok (found, rest) := by
  rw [membersFrom]
  split <;> rename_i h' <;> rw [h] at h' <;> cases h'
  rfl

theorem membersFrom_item {first : Bool} {cs item after : List Char} {key : String}
    (h : next '\x7d' first cs = .ok (.item item)) (hname : name item = .ok (key, after))
    (fields : Fields) (found : Found) :
    membersFrom fields first found cs =
      member fields found key after >>= fun (found, rest) => membersFrom fields false found rest := by
  rw [membersFrom]
  split <;> rename_i h' <;> rw [h] at h' <;> cases h'
  split <;> rename_i h' <;> rw [hname] at h' <;> cases h'
  split <;> rename_i h' <;> rw [h'] <;> rfl

/-- A member is read for what it adds, up to where its value ends. -/
theorem member_chars_iff {fields : Fields} {found found' : Found} {key : String} {l : Layout}
    {ws ws' : List Space} {rest rest' : List Char} (h : Ends rest) :
    member fields found key (spaces ws ++ ':' :: (spaces ws' ++ (l.chars ++ rest))) =
        .ok (found', rest') ↔
      (fields.lookup key = none ∧ found' = found ∧ rest' = rest) ∨
      ∃ d : Datum, fields.lookup key = some d.form ∧ found.lookup key = none ∧
        l.value? = some d.toJson ∧ found' = (key, d) :: found ∧ rest' = rest := by
  rw [member, colon_spaces]
  cases hlookup : fields.lookup key with
  | none =>
    simp only [skip_chars ws' l h, Except.map, Except.ok.injEq, Prod.mk.injEq]
    constructor
    · rintro ⟨rfl, rfl⟩
      exact .inl ⟨trivial, rfl, rfl⟩
    · rintro (⟨-, rfl, rfl⟩ | ⟨d, hd, -⟩)
      · exact ⟨rfl, rfl⟩
      · cases hd
  | some form =>
    cases hfound : found.lookup key with
    | some d => simp
    | none =>
      simp only [Option.isSome_none, Bool.false_eq_true, if_false, map_eq_ok_iff, Prod.exists,
        read_chars_iff, Prod.mk.injEq]
      constructor
      · rintro ⟨d, r, ⟨rfl, hvalue, rfl⟩, rfl, rfl⟩
        exact .inr ⟨d, rfl, trivial, hvalue, rfl, rfl⟩
      · rintro (⟨hnone, -⟩ | ⟨d, hform, -, hvalue, rfl, rfl⟩)
        · cases hnone
        · exact ⟨d, _, ⟨(Option.some.inj hform).symm, hvalue, rfl⟩, rfl, rfl⟩

/-- **Members are read for what they gather**, whatever their order, spaces and spelling. -/
theorem membersFrom_chars_iff {fields : Fields} {ms : List Member} {first : Bool} {ws : List Space}
    {found found' : Found} {rest rest' : List Char} :
    membersFrom fields first found (spaces ws ++ (Member.chars first ms ++ rest)) =
        .ok (found', rest') ↔
      Gathers fields found ms found' ∧ rest' = rest := by
  induction ms generalizing first ws found with
  | nil =>
    rw [Member.chars, List.map_nil, membersFrom_closed (next_membersChars_nil first ws rest)]
    constructor
    · intro h
      cases h
      exact ⟨.nil _, rfl⟩
    · rintro ⟨h, rfl⟩
      cases h
      rfl
  | cons m ms ih =>
    have hnext := next_membersChars_cons first ws m.label m.value
      (ms.map fun m => (m.label, m.value)) rest
    have hends := (ends_membersChars (ms.map fun m => (m.label, m.value)) rest).spaces m.label.after
    rw [Member.chars, List.map_cons, membersFrom_item hnext (m.name_spelled _), bind_eq_ok_iff]
    constructor
    · rintro ⟨⟨found'', after⟩, hmember, hmore⟩
      rcases (member_chars_iff hends).1 hmember with
        ⟨hname, rfl, rfl⟩ | ⟨d, hname, hnew, hvalue, rfl, rfl⟩
      · obtain ⟨hms, hrest⟩ := ih.1 hmore
        exact ⟨.other hname hms, hrest⟩
      · obtain ⟨hms, hrest⟩ := ih.1 hmore
        exact ⟨.field hname hnew hvalue hms, hrest⟩
    · rintro ⟨h, hrest⟩
      cases h with
      | other hname hms =>
        exact ⟨(found, _), (member_chars_iff hends).2 (.inl ⟨hname, rfl, rfl⟩), ih.2 ⟨hms, hrest⟩⟩
      | field hname hnew hvalue hms =>
        exact ⟨(_, _), (member_chars_iff hends).2 (.inr ⟨_, hname, hnew, hvalue, rfl, rfl⟩),
          ih.2 ⟨hms, hrest⟩⟩

/-! ## Name by name -/

namespace Member

variable {key : String} {m : Member} {ms : List Member}

theorem named_cons_of_eq (h : m.name = key) : named key (m :: ms) = m :: named key ms := by
  simp [named, h]

theorem named_cons_of_ne (h : m.name ≠ key) : named key (m :: ms) = named key ms := by
  simp [named, h]

end Member

theorem ne_of_lookup {α : Type} {entries : List (String × α)} {key key' : String} {a : α}
    (h : entries.lookup key = none) (h' : entries.lookup key' = some a) : key ≠ key' := by
  rintro rfl
  rw [h] at h'
  cases h'

/-- The value that a datum has says what the datum is, its form given. -/
theorem Datum.eq_of_toJson {d d' : Datum} (hform : d.form = d'.form) (h : d.toJson = d'.toJson) :
    d = d' := by
  have htexts : Function.Injective (List.map Json.text) :=
    List.map_injective_iff.2 fun _ _ h => Json.text.inj h
  cases d with
  | text s => cases d' <;> simp_all [form, toJson]
  | optional s =>
    cases d' with
    | optional s' => cases s <;> cases s' <;> simp_all [toJson, Json.optional]
    | _ => cases hform
  | texts ss =>
    cases d' with
    | texts ss' => rw [htexts (Json.list.inj h)]
    | _ => cases hform

namespace Gathers

variable {fields : Fields} {found found' : Found} {ms : List Member} {key : String}

/-- What has been found once stays, and does not come again. -/
theorem of_found (h : Gathers fields found ms found') {form : Form}
    (hkey : fields.lookup key = some form) {d : Datum} (hd : found.lookup key = some d) :
    Member.named key ms = [] ∧ found'.lookup key = some d := by
  induction h with
  | nil => exact ⟨rfl, hd⟩
  | @other _ _ m _ hname _ ih =>
    have hne : m.name ≠ key := ne_of_lookup hname hkey
    rw [Member.named_cons_of_ne hne]
    exact ih hd
  | @field _ _ m _ _ _ hnew _ _ ih =>
    have hne : m.name ≠ key := ne_of_lookup hnew hd
    rw [Member.named_cons_of_ne hne]
    exact ih (by rw [List.lookup_cons, beq_false_of_ne hne.symm]; exact hd)

/-- Of a field that has not been found, no member comes or exactly one. -/
theorem of_new (h : Gathers fields found ms found') {form : Form}
    (hkey : fields.lookup key = some form) (hnew : found.lookup key = none) :
    (Member.named key ms = [] ∧ found'.lookup key = none) ∨
      ∃ m d, Member.named key ms = [m] ∧ d.form = form ∧ m.value.value? = some d.toJson ∧
        found'.lookup key = some d := by
  induction h with
  | nil => exact .inl ⟨rfl, hnew⟩
  | @other _ _ m _ hname _ ih =>
    have hne : m.name ≠ key := ne_of_lookup hname hkey
    rw [Member.named_cons_of_ne hne]
    exact ih hnew
  | @field _ _ m _ d hname _ hvalue hms ih =>
    by_cases heq : m.name = key
    · subst heq
      obtain ⟨hnamed, hfound⟩ := hms.of_found hkey (d := d) (by rw [List.lookup_cons, beq_self_eq_true])
      refine .inr ⟨m, d, ?_, ?_, hvalue, hfound⟩
      · rw [Member.named_cons_of_eq rfl, hnamed]
      · rw [hname] at hkey
        exact Option.some.inj hkey
    · rw [Member.named_cons_of_ne heq]
      exact ih (by rw [List.lookup_cons, beq_false_of_ne (Ne.symm heq)]; exact hnew)

end Gathers

/-- Members are gathered when none repeats a field and each field holds a value of its form. -/
theorem exists_gathers {fields : Fields} {ms : List Member} {found : Found}
    (h : ∀ key form, fields.lookup key = some form → Member.named key ms = [] ∨
      found.lookup key = none ∧
        ∃ m d, Member.named key ms = [m] ∧ Datum.form d = form ∧ m.value.value? = some d.toJson) :
    ∃ found', Gathers fields found ms found' := by
  induction ms generalizing found with
  | nil => exact ⟨found, .nil found⟩
  | cons m ms ih =>
    cases hname : fields.lookup m.name with
    | none =>
      have hms : ∃ found', Gathers fields found ms found' := by
        refine ih fun key form hkey => ?_
        have hne : m.name ≠ key := ne_of_lookup hname hkey
        have hcase := h key form hkey
        rwa [Member.named_cons_of_ne hne] at hcase
      obtain ⟨found', hms⟩ := hms
      exact ⟨found', .other hname hms⟩
    | some form =>
      have hcase := h m.name form hname
      rw [Member.named_cons_of_eq rfl] at hcase
      obtain hnil | ⟨hnew, m', d, hnamed, rfl, hvalue⟩ := hcase
      · cases hnil
      obtain ⟨rfl, hnone⟩ := List.cons.inj hnamed
      have hms : ∃ found', Gathers fields ((m.name, d) :: found) ms found' := by
        refine ih fun key form hkey => ?_
        by_cases heq : m.name = key
        · subst heq
          exact .inl hnone
        · have hcase := h key form hkey
          rw [Member.named_cons_of_ne heq] at hcase
          rw [List.lookup_cons, beq_false_of_ne (Ne.symm heq)]
          exact hcase
      obtain ⟨found', hms⟩ := hms
      exact ⟨found', .field hname hnew hvalue hms⟩

end CloudRehearsal.Json
