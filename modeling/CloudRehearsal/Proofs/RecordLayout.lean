import CloudRehearsal.Proofs.Members

/-!
Messages and tokens in any layout. A message is read from every object that holds each of its fields
once, in any order and among any other members, and from the array of its fields; so are tokens, where
an object may leave out those that are missing. Nothing else is read as that message or those tokens
(`layout_does_not_matter`), so no object is read that repeats a field or lacks one that must be there.

The name of a member is a text, in any spelling. What the members of other names hold is any JSON
value, with numbers of any size and halves of pairs in its strings.
-/
namespace CloudRehearsal

namespace Json

/-! ## Objects -/

/-- An object, with all that its text leaves open. -/
structure Object where
  before : List Space
  inside : List Space
  members : List Member
  after : List Space

namespace Object

def text (o : Object) : String :=
  String.ofList (spaces o.before ++
    '\x7b' :: (spaces o.inside ++ (Member.chars true o.members ++ spaces o.after)))

/-- Exactly one member has the name, and it holds the value. -/
def Holds (o : Object) (key : String) (v : Json) : Prop :=
  ∃ m, Member.named key o.members = [m] ∧ m.value.value? = some v

/-- No member has the name. -/
def Lacks (o : Object) (key : String) : Prop := Member.named key o.members = []

/-- More than one member has the name. -/
def Repeats (o : Object) (key : String) : Prop := 1 < (Member.named key o.members).length

variable {o : Object} {key : String} {v : Json}

theorem Holds.not_repeats (h : o.Holds key v) : ¬ o.Repeats key := by
  obtain ⟨m, hm, -⟩ := h
  simp [Repeats, hm]

theorem Lacks.not_repeats (h : o.Lacks key) : ¬ o.Repeats key := by
  rw [Lacks] at h
  simp [Repeats, h]

theorem Holds.not_lacks (h : o.Holds key v) : ¬ o.Lacks key := by
  obtain ⟨m, hm, -⟩ := h
  simp [Lacks, hm]

end Object

theorem readFields_object (fields : Fields) (o : Object) :
    readFields fields o.text.toList =
      membersFrom fields true [] (spaces o.inside ++ (Member.chars true o.members ++ spaces o.after)) := by
  have hbrace : isSpace '\x7b' = false := by decide
  rw [Object.text, String.toList_ofList, readFields, skipSpaces_spaces, skipSpaces_cons hbrace]
  simp

theorem readRecord_eq_ok_iff {α : Type} {fields : Fields} {make : Found → Option α} {s : String}
    {a : α} :
    readRecord fields make s = .ok a ↔
      ∃ found rest, readFields fields s.toList = .ok (found, rest) ∧ make found = some a ∧
        atEnd rest = .ok () := by
  rw [readRecord]
  cases readFields fields s.toList with
  | error e => simp
  | ok p =>
    obtain ⟨found, rest⟩ := p
    cases hmake : make found with
    | none => simp [hmake]
    | some b =>
      simp only [hmake, map_eq_ok_iff, Except.ok.injEq, Prod.mk.injEq]
      constructor
      · rintro ⟨_, hend, rfl⟩
        exact ⟨found, rest, ⟨rfl, rfl⟩, hmake, hend⟩
      · rintro ⟨_, _, ⟨rfl, rfl⟩, ha, hend⟩
        exact ⟨(), hend, Option.some.inj (hmake.symm.trans ha)⟩

theorem readRecord_object_iff {α : Type} {fields : Fields} {make : Found → Option α} {o : Object}
    {a : α} :
    readRecord fields make o.text = .ok a ↔
      ∃ found, Gathers fields [] o.members found ∧ make found = some a := by
  simp only [readRecord_eq_ok_iff, readFields_object, membersFrom_chars_iff]
  constructor
  · rintro ⟨found, _, ⟨hgathers, rfl⟩, hmake, -⟩
    exact ⟨found, hgathers, hmake⟩
  · rintro ⟨found, hgathers, hmake⟩
    exact ⟨found, _, ⟨hgathers, rfl⟩, hmake, atEnd_spaces o.after⟩

namespace Gathers

variable {fields : Fields} {found : Found} {o : Object} {key : String}

theorem lookup_eq_some_iff (h : Gathers fields [] o.members found) {d : Datum}
    (hkey : fields.lookup key = some d.form) :
    found.lookup key = some d ↔ o.Holds key d.toJson := by
  rcases h.of_new hkey rfl with ⟨hnone, hfound⟩ | ⟨m, d', hm, hform, hvalue, hfound⟩
  · simp [hfound, Object.Holds, hnone]
  · rw [hfound]
    constructor
    · intro heq
      cases heq
      exact ⟨m, hm, hvalue⟩
    · rintro ⟨m', hm', hvalue'⟩
      obtain rfl := List.singleton_inj.1 (hm.symm.trans hm')
      rw [hvalue] at hvalue'
      rw [Datum.eq_of_toJson hform (Option.some.inj hvalue')]

theorem lookup_eq_none_iff (h : Gathers fields [] o.members found) {form : Form}
    (hkey : fields.lookup key = some form) : found.lookup key = none ↔ o.Lacks key := by
  rcases h.of_new hkey rfl with ⟨hnone, hfound⟩ | ⟨m, d', hm, -, -, hfound⟩
  · exact iff_of_true hfound hnone
  · simp [hfound, Object.Lacks, hm]

theorem form_of_lookup (h : Gathers fields [] o.members found) {form : Form}
    (hkey : fields.lookup key = some form) {d : Datum} (hd : found.lookup key = some d) :
    d.form = form := by
  rcases h.of_new hkey rfl with ⟨-, hfound⟩ | ⟨m, d', -, hform, -, hfound⟩
  · rw [hfound] at hd
    cases hd
  · rw [hfound] at hd
    cases hd
    exact hform

theorem text?_eq_some_iff (h : Gathers fields [] o.members found)
    (hkey : fields.lookup key = some .text) {s : String} :
    found.text? key = some s ↔ o.Holds key (.text s) := by
  have hholds : found.lookup key = some (.text s) ↔ o.Holds key (.text s) :=
    h.lookup_eq_some_iff (d := .text s) hkey
  rw [← hholds, Found.text?]
  cases hd : found.lookup key with
  | none => simp
  | some d =>
    have hform := h.form_of_lookup hkey hd
    cases d <;> simp_all [Datum.form]

theorem texts?_eq_some_iff (h : Gathers fields [] o.members found)
    (hkey : fields.lookup key = some .texts) {ss : List String} :
    found.texts? key = some ss ↔ o.Holds key (.list (ss.map .text)) := by
  have hholds : found.lookup key = some (.texts ss) ↔ o.Holds key (.list (ss.map .text)) :=
    h.lookup_eq_some_iff (d := .texts ss) hkey
  rw [← hholds, Found.texts?]
  cases hd : found.lookup key with
  | none => simp
  | some d =>
    have hform := h.form_of_lookup hkey hd
    cases d <;> simp_all [Datum.form]

theorem optional_eq_iff (h : Gathers fields [] o.members found)
    (hkey : fields.lookup key = some .optional) {s : Option String} :
    found.optional key = s ↔
      o.Holds key (Json.optional .text s) ∨ o.Lacks key ∧ s = none := by
  have hholds : found.lookup key = some (.optional s) ↔ o.Holds key (Json.optional .text s) :=
    h.lookup_eq_some_iff (d := .optional s) hkey
  rw [← hholds, ← h.lookup_eq_none_iff hkey, Found.optional]
  cases hd : found.lookup key with
  | none => simp [eq_comm]
  | some d =>
    have hform := h.form_of_lookup hkey hd
    cases d <;> simp_all [Datum.form]

end Gathers

/-- A field is as a record wants it: left out, or held once with a value of its form. -/
def Object.Fits (o : Object) (key : String) (form : Form) : Prop :=
  o.Lacks key ∨ ∃ d : Datum, d.form = form ∧ o.Holds key d.toJson

theorem Object.exists_gathers {fields : Fields} {o : Object} (h : ∀ p ∈ fields, o.Fits p.1 p.2) :
    ∃ found, Gathers fields [] o.members found := by
  refine Json.exists_gathers fun key form hkey => ?_
  obtain ⟨before, after, hfields, -⟩ := List.lookup_eq_some_iff.1 hkey
  rcases h (key, form) (by simp [hfields]) with hlacks | ⟨d, hform, m, hm, hvalue⟩
  · exact .inl hlacks
  · exact .inr ⟨rfl, m, d, hm, hform, hvalue⟩

/-! ## Arrays -/

/-- An array, with all that its text leaves open. -/
structure Sequence where
  before : List Space
  inside : List Space
  items : List (Gap × Layout)
  after : List Space

namespace Sequence

def text (a : Sequence) : String :=
  String.ofList (spaces a.before ++
    '[' :: (spaces a.inside ++ (Layout.itemsChars true a.items ++ spaces a.after)))

/-- The values of the items, in order. -/
def values? (a : Sequence) : Option (List Json) := Layout.itemValues? a.items

end Sequence

theorem inOrder_end_iff {items : List (Gap × Layout)} {first : Bool} {ws : List Space}
    {found found' : Found} {rest rest' : List Char} :
    inOrder first found (spaces ws ++ (Layout.itemsChars first items ++ rest)) [] =
        .ok (found', rest') ↔
      items = [] ∧ found' = found ∧ rest' = rest := by
  rw [inOrder, skipSpaces_spaces]
  cases items with
  | nil =>
    have hclose : isSpace ']' = false := by decide
    rw [Layout.itemsChars, List.singleton_append, skipSpaces_cons hclose]
    simp [eq_comm]
  | cons item items =>
    obtain ⟨gap, l⟩ := item
    refine iff_of_false ?_ (by simp)
    cases first with
    | false =>
      have hcomma : isSpace ',' = false := by decide
      simp [Layout.itemsChars, comma, skipSpaces_cons hcomma]
    | true =>
      obtain ⟨c, cs, hl, -, hne⟩ := l.chars_eq_cons
      simp only [Layout.itemsChars, comma, if_true, List.nil_append, List.append_assoc,
        skipSpaces_chars]
      simp [hl, hne]

theorem inOrder_closed {first : Bool} {cs rest : List Char}
    (h : next ']' first cs = .ok (.closed rest)) (found : Found) (p : String × Form) (more : Fields) :
    inOrder first found cs (p :: more) = .error .otherForm := by
  rw [inOrder, h]

theorem inOrder_item {first : Bool} {cs item : List Char}
    (h : next ']' first cs = .ok (.item item)) (found : Found) (key : String) (form : Form)
    (more : Fields) :
    inOrder first found cs ((key, form) :: more) =
      form.read item >>= fun (d, rest) => inOrder false ((key, d) :: found) rest more := by
  simp only [inOrder, h]
  cases form.read item <;> rfl

/-- **The items of an array are read for the fields in their order**, and nothing is left over. -/
theorem inOrder_chars_iff {fields : Fields} {items : List (Gap × Layout)} {first : Bool}
    {ws : List Space} {found found' : Found} {rest rest' : List Char} :
    inOrder first found (spaces ws ++ (Layout.itemsChars first items ++ rest)) fields =
        .ok (found', rest') ↔
      ∃ data : List (String × Datum), (data.map fun p => (p.1, p.2.form)) = fields ∧
        Layout.itemValues? items = some (data.map fun p => p.2.toJson) ∧
        found' = data.reverse ++ found ∧ rest' = rest := by
  induction fields generalizing items first ws found with
  | nil =>
    rw [inOrder_end_iff]
    constructor
    · rintro ⟨rfl, rfl, rfl⟩
      exact ⟨[], rfl, rfl, rfl, rfl⟩
    · rintro ⟨data, hdata, hvalues, rfl, rfl⟩
      obtain rfl := List.map_eq_nil_iff.1 hdata
      cases items with
      | nil => exact ⟨rfl, rfl, rfl⟩
      | cons item items =>
        obtain ⟨_, _, -, -, hcons⟩ := Layout.itemValues?_cons_iff.1 hvalues
        cases hcons
  | cons p more ih =>
    obtain ⟨key, form⟩ := p
    cases items with
    | nil =>
      rw [inOrder_closed (next_itemsChars_nil first ws rest)]
      refine iff_of_false (by simp) ?_
      rintro ⟨data, hdata, hvalues, -, -⟩
      obtain rfl := List.map_eq_nil_iff.1 (Option.some.inj hvalues).symm
      cases hdata
    | cons item items =>
      obtain ⟨gap, l⟩ := item
      rw [inOrder_item (next_itemsChars_cons first ws gap l items rest), bind_eq_ok_iff]
      constructor
      · rintro ⟨⟨d, after⟩, hread, hmore⟩
        obtain ⟨rfl, hvalue, rfl⟩ := (read_chars_iff []).1 hread
        obtain ⟨data, rfl, hvalues, rfl, rfl⟩ := ih.1 hmore
        refine ⟨(key, d) :: data, rfl, ?_, by simp, rfl⟩
        exact Layout.itemValues?_cons_iff.2 ⟨_, _, hvalue, hvalues, rfl⟩
      · rintro ⟨data, hdata, hvalues, rfl, rfl⟩
        obtain ⟨⟨_, d⟩, data, rfl, hfield, rfl⟩ := List.map_eq_cons_iff.1 hdata
        cases hfield
        obtain ⟨_, _, hvalue, hvalues, hcons⟩ := Layout.itemValues?_cons_iff.1 hvalues
        obtain ⟨rfl, rfl⟩ := List.cons.inj hcons
        refine ⟨(d, _), (read_chars_iff []).2 ⟨rfl, hvalue, rfl⟩, ?_⟩
        exact ih.2 ⟨data, rfl, hvalues, by simp, rfl⟩

theorem readFields_sequence (fields : Fields) (a : Sequence) :
    readFields fields a.text.toList =
      inOrder true [] (spaces a.inside ++ (Layout.itemsChars true a.items ++ spaces a.after))
        fields := by
  have hbracket : isSpace '[' = false := by decide
  rw [Sequence.text, String.toList_ofList, readFields, skipSpaces_spaces, skipSpaces_cons hbracket]
  simp

theorem readRecord_sequence_iff {α : Type} {fields : Fields} {make : Found → Option α}
    {a : Sequence} {b : α} :
    readRecord fields make a.text = .ok b ↔
      ∃ data : List (String × Datum), (data.map fun p => (p.1, p.2.form)) = fields ∧
        a.values? = some (data.map fun p => p.2.toJson) ∧ make data.reverse = some b := by
  simp only [readRecord_eq_ok_iff, readFields_sequence, inOrder_chars_iff]
  constructor
  · rintro ⟨_, _, ⟨data, hdata, hvalues, rfl, rfl⟩, hmake, -⟩
    rw [List.append_nil] at hmake
    exact ⟨data, hdata, hvalues, hmake⟩
  · rintro ⟨data, hdata, hvalues, hmake⟩
    refine ⟨_, _, ⟨data, hdata, hvalues, rfl, rfl⟩, ?_, atEnd_spaces a.after⟩
    rwa [List.append_nil]

namespace Datum

variable {d : Datum}

theorem form_eq_text_iff : d.form = .text ↔ ∃ s, d = .text s := by cases d <;> simp [form]

theorem form_eq_optional_iff : d.form = .optional ↔ ∃ s, d = .optional s := by
  cases d <;> simp [form]

theorem form_eq_texts_iff : d.form = .texts ↔ ∃ ss, d = .texts ss := by cases d <;> simp [form]

end Datum

end Json

/-! ## Messages and tokens -/

namespace EmailMessage

open Json

theorem ofFound_eq_some_iff {found : Found} {m : EmailMessage} :
    ofFound found = some m ↔
      found.text? "source" = some m.source ∧ found.texts? "to" = some m.recipients ∧
        found.text? "subject" = some m.subject ∧ found.text? "body" = some m.body := by
  cases m
  simp only [ofFound, bind, Option.bind_eq_some_iff, pure, Option.some.injEq, mk.injEq]
  constructor
  · rintro ⟨_, hsource, _, hto, _, hsubject, _, hbody, rfl, rfl, rfl, rfl⟩
    exact ⟨hsource, hto, hsubject, hbody⟩
  · rintro ⟨hsource, hto, hsubject, hbody⟩
    exact ⟨_, hsource, _, hto, _, hsubject, _, hbody, rfl, rfl, rfl, rfl⟩

/-- An object is read for the message whose fields it holds. -/
theorem ofJson_object_iff {o : Object} {m : EmailMessage} :
    ofJson o.text = .ok m ↔
      o.Holds "source" (.text m.source) ∧ o.Holds "to" (.list (m.recipients.map .text)) ∧
        o.Holds "subject" (.text m.subject) ∧ o.Holds "body" (.text m.body) := by
  simp only [ofJson, readRecord_object_iff, ofFound_eq_some_iff]
  constructor
  · rintro ⟨found, h, hfound⟩
    rwa [h.text?_eq_some_iff rfl, h.texts?_eq_some_iff rfl, h.text?_eq_some_iff rfl,
      h.text?_eq_some_iff rfl] at hfound
  · intro hholds
    obtain ⟨found, h⟩ : ∃ found, Gathers fields [] o.members found := by
      refine Object.exists_gathers ?_
      simp only [fields, List.forall_mem_cons, List.not_mem_nil, false_implies, implies_true, and_true]
      exact ⟨.inr ⟨.text m.source, rfl, hholds.1⟩, .inr ⟨.texts m.recipients, rfl, hholds.2.1⟩,
        .inr ⟨.text m.subject, rfl, hholds.2.2.1⟩, .inr ⟨.text m.body, rfl, hholds.2.2.2⟩⟩
    refine ⟨found, h, ?_⟩
    rwa [h.text?_eq_some_iff rfl, h.texts?_eq_some_iff rfl, h.text?_eq_some_iff rfl,
      h.text?_eq_some_iff rfl]

/-- An array is read for the message whose fields it holds, in their order. -/
theorem ofJson_sequence_iff {a : Sequence} {m : EmailMessage} :
    ofJson a.text = .ok m ↔
      a.values? = some [.text m.source, .list (m.recipients.map .text), .text m.subject,
        .text m.body] := by
  rw [ofJson, readRecord_sequence_iff]
  constructor
  · rintro ⟨data, hdata, hvalues, hmake⟩
    simp only [fields, List.map_eq_cons_iff, List.map_eq_nil_iff, Prod.mk.injEq] at hdata
    obtain ⟨⟨_, d₁⟩, _, rfl, ⟨rfl, h₁⟩, ⟨_, d₂⟩, _, rfl, ⟨rfl, h₂⟩, ⟨_, d₃⟩, _, rfl, ⟨rfl, h₃⟩,
      ⟨_, d₄⟩, _, rfl, ⟨rfl, h₄⟩, rfl⟩ := hdata
    obtain ⟨source, rfl⟩ := Datum.form_eq_text_iff.1 h₁
    obtain ⟨recipients, rfl⟩ := Datum.form_eq_texts_iff.1 h₂
    obtain ⟨subject, rfl⟩ := Datum.form_eq_text_iff.1 h₃
    obtain ⟨body, rfl⟩ := Datum.form_eq_text_iff.1 h₄
    obtain rfl : EmailMessage.mk source recipients subject body = m := Option.some.inj hmake
    exact hvalues
  · intro hvalues
    exact ⟨[("source", .text m.source), ("to", .texts m.recipients), ("subject", .text m.subject),
      ("body", .text m.body)], rfl, hvalues, rfl⟩

end EmailMessage

namespace AuthTokens

open Json

theorem ofFound_eq_some_iff {found : Found} {t : AuthTokens} :
    ofFound found = some t ↔
      found.text? "access_token" = some t.accessToken ∧ found.optional "id_token" = t.idToken ∧
        found.optional "refresh_token" = t.refreshToken := by
  cases t
  simp only [ofFound, bind, Option.bind_eq_some_iff, pure, Option.some.injEq, mk.injEq]
  constructor
  · rintro ⟨_, haccess, rfl, hid, hrefresh⟩
    exact ⟨haccess, hid, hrefresh⟩
  · rintro ⟨haccess, hid, hrefresh⟩
    exact ⟨_, haccess, rfl, hid, hrefresh⟩

/-- An object is read for the tokens that it holds; one that it lacks is read as null is. -/
theorem ofJson_object_iff {o : Object} {t : AuthTokens} :
    ofJson o.text = .ok t ↔
      o.Holds "access_token" (.text t.accessToken) ∧
        (o.Holds "id_token" (Json.optional .text t.idToken) ∨ o.Lacks "id_token" ∧ t.idToken = none) ∧
        (o.Holds "refresh_token" (Json.optional .text t.refreshToken) ∨
          o.Lacks "refresh_token" ∧ t.refreshToken = none) := by
  have hfits {key : String} {s : Option String}
      (h : o.Holds key (Json.optional .text s) ∨ o.Lacks key ∧ s = none) : o.Fits key .optional := by
    rcases h with hholds | ⟨hlacks, -⟩
    · exact .inr ⟨.optional s, rfl, hholds⟩
    · exact .inl hlacks
  simp only [ofJson, readRecord_object_iff, ofFound_eq_some_iff]
  constructor
  · rintro ⟨found, h, hfound⟩
    rwa [h.text?_eq_some_iff rfl, h.optional_eq_iff rfl, h.optional_eq_iff rfl] at hfound
  · intro hholds
    obtain ⟨found, h⟩ : ∃ found, Gathers fields [] o.members found := by
      refine Object.exists_gathers ?_
      simp only [fields, List.forall_mem_cons, List.not_mem_nil, false_implies, implies_true, and_true]
      exact ⟨.inr ⟨.text t.accessToken, rfl, hholds.1⟩, hfits hholds.2.1, hfits hholds.2.2⟩
    refine ⟨found, h, ?_⟩
    rwa [h.text?_eq_some_iff rfl, h.optional_eq_iff rfl, h.optional_eq_iff rfl]

/-- An array is read for the tokens that it holds, in their order. -/
theorem ofJson_sequence_iff {a : Sequence} {t : AuthTokens} :
    ofJson a.text = .ok t ↔
      a.values? = some [.text t.accessToken, Json.optional .text t.idToken,
        Json.optional .text t.refreshToken] := by
  rw [ofJson, readRecord_sequence_iff]
  constructor
  · rintro ⟨data, hdata, hvalues, hmake⟩
    simp only [fields, List.map_eq_cons_iff, List.map_eq_nil_iff, Prod.mk.injEq] at hdata
    obtain ⟨⟨_, d₁⟩, _, rfl, ⟨rfl, h₁⟩, ⟨_, d₂⟩, _, rfl, ⟨rfl, h₂⟩, ⟨_, d₃⟩, _, rfl, ⟨rfl, h₃⟩,
      rfl⟩ := hdata
    obtain ⟨access, rfl⟩ := Datum.form_eq_text_iff.1 h₁
    obtain ⟨id, rfl⟩ := Datum.form_eq_optional_iff.1 h₂
    obtain ⟨refresh, rfl⟩ := Datum.form_eq_optional_iff.1 h₃
    obtain rfl : AuthTokens.mk access id refresh = t := Option.some.inj hmake
    exact hvalues
  · intro hvalues
    exact ⟨[("access_token", .text t.accessToken), ("id_token", .optional t.idToken),
      ("refresh_token", .optional t.refreshToken)], rfl, hvalues, rfl⟩

end AuthTokens

theorem Json.Object.Holds.sound {o : Json.Object} {key : String} {v : Json} (h : o.Holds key v) :
    ¬ (o.Repeats key ∨ o.Lacks key) :=
  not_or.2 ⟨h.not_repeats, h.not_lacks⟩

theorem EmailMessage.ofJson_ne_ok {o : Json.Object}
    (h : ∃ key ∈ ["source", "to", "subject", "body"], o.Repeats key ∨ o.Lacks key)
    (m : EmailMessage) : ofJson o.text ≠ .ok m := by
  intro hm
  obtain ⟨hsource, hto, hsubject, hbody⟩ := ofJson_object_iff.1 hm
  obtain ⟨key, hkey, hbad⟩ := h
  simp only [List.mem_cons, List.not_mem_nil, or_false] at hkey
  rcases hkey with rfl | rfl | rfl | rfl
  · exact hsource.sound hbad
  · exact hto.sound hbad
  · exact hsubject.sound hbad
  · exact hbody.sound hbad

theorem AuthTokens.ofJson_ne_ok {o : Json.Object}
    (h : (∃ key ∈ ["access_token", "id_token", "refresh_token"], o.Repeats key) ∨
      o.Lacks "access_token") (t : AuthTokens) : ofJson o.text ≠ .ok t := by
  intro ht
  obtain ⟨haccess, hid, hrefresh⟩ := ofJson_object_iff.1 ht
  have hnever {key : String} {s : Option String}
      (h : o.Holds key (Json.optional .text s) ∨ o.Lacks key ∧ s = none) : ¬ o.Repeats key := by
    rcases h with hholds | ⟨hlacks, -⟩
    · exact hholds.not_repeats
    · exact hlacks.not_repeats
  rcases h with ⟨key, hkey, hbad⟩ | hlacks
  · simp only [List.mem_cons, List.not_mem_nil, or_false] at hkey
    rcases hkey with rfl | rfl | rfl
    · exact haccess.not_repeats hbad
    · exact hnever hid hbad
    · exact hnever hrefresh hbad
  · exact haccess.not_lacks hlacks

/-- **Layout does not matter.** An object is read as a message exactly when it holds each field of that
message once, wherever they stand and whatever else it holds, and an array exactly when it is the array
of the fields in their order. Tokens are read likewise; one that the object lacks is read as null is.
So an object that repeats a field, or lacks one that must be there, is never read. -/
theorem layout_does_not_matter :
    (∀ (m : EmailMessage) (o : Json.Object), EmailMessage.ofJson o.text = .ok m ↔
      o.Holds "source" (.text m.source) ∧ o.Holds "to" (.list (m.recipients.map .text)) ∧
        o.Holds "subject" (.text m.subject) ∧ o.Holds "body" (.text m.body)) ∧
    (∀ (m : EmailMessage) (a : Json.Sequence), EmailMessage.ofJson a.text = .ok m ↔
      a.values? = some [.text m.source, .list (m.recipients.map .text), .text m.subject,
        .text m.body]) ∧
    (∀ (t : AuthTokens) (o : Json.Object), AuthTokens.ofJson o.text = .ok t ↔
      o.Holds "access_token" (.text t.accessToken) ∧
        (o.Holds "id_token" (Json.optional .text t.idToken) ∨ o.Lacks "id_token" ∧ t.idToken = none) ∧
        (o.Holds "refresh_token" (Json.optional .text t.refreshToken) ∨
          o.Lacks "refresh_token" ∧ t.refreshToken = none)) ∧
    (∀ (t : AuthTokens) (a : Json.Sequence), AuthTokens.ofJson a.text = .ok t ↔
      a.values? = some [.text t.accessToken, Json.optional .text t.idToken,
        Json.optional .text t.refreshToken]) ∧
    (∀ o : Json.Object,
      (∃ key ∈ ["source", "to", "subject", "body"], o.Repeats key ∨ o.Lacks key) →
        ∀ m, EmailMessage.ofJson o.text ≠ .ok m) ∧
    (∀ o : Json.Object,
      ((∃ key ∈ ["access_token", "id_token", "refresh_token"], o.Repeats key) ∨
          o.Lacks "access_token") →
        ∀ t, AuthTokens.ofJson o.text ≠ .ok t) :=
  ⟨fun _ _ => EmailMessage.ofJson_object_iff, fun _ _ => EmailMessage.ofJson_sequence_iff,
    fun _ _ => AuthTokens.ofJson_object_iff, fun _ _ => AuthTokens.ofJson_sequence_iff,
    fun _ => EmailMessage.ofJson_ne_ok, fun _ => AuthTokens.ofJson_ne_ok⟩

end CloudRehearsal
