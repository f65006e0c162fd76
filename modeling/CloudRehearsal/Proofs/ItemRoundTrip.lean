import CloudRehearsal.Client.Tables
import CloudRehearsal.Proofs.Checking
import CloudRehearsal.Proofs.ErrorClasses
import Mathlib.Logic.Function.Basic

/-!
An item that is written and read back, on any service that stores items by the values of their keys
(`StoresItems`).

An item is written by two insertions, of the key and of the attribute. An attribute named like the key
takes the place of the key, and the item is then stored by the value of the attribute: it comes back
under its own key exactly when the two values agree (`Tables.getItem_putItem_iff`).
-/
namespace CloudRehearsal

open Method

variable {σ : Type}

/-! ## Tables of items -/

/-- An item as it is read when it has been written. -/
def TextItem.stored (item : TextItem) : Item := item.map fun (name, value) => (name, .text value)

theorem TextItem.lookup_stored (item : TextItem) (name : String) :
    item.stored.lookup name = (item.lookup name).map .text := by
  induction item with
  | nil => rfl
  | cons p item ih =>
    obtain ⟨key, value⟩ := p
    simp only [stored, List.map_cons, List.lookup_cons]
    by_cases hk : name = key
    · simp [hk]
    · have hb : (name == key) = false := by simpa using hk
      rw [hb]
      exact ih

/-- A table: the name of its key, and its items, each stored by the value of its key. -/
structure KeyedTable where
  key : String
  items : String → Option Item
  keyed : ∀ {k : String} {item : Item}, items k = some item → item.lookup key = some (.text k)

namespace KeyedTable

variable (t : KeyedTable) {item : TextItem} {k : String}

/-- The table with an item, in place of any other of the same key. -/
def store (item : TextItem) (k : String) (h : item.lookup t.key = some k) : KeyedTable where
  key := t.key
  items := Function.update t.items k (some item.stored)
  keyed := by
    intro j found hj
    by_cases hjk : j = k
    · subst hjk
      rw [Function.update_self] at hj
      cases hj
      rw [TextItem.lookup_stored, h]
      rfl
    · rw [Function.update_of_ne hjk] at hj
      exact t.keyed hj

/-- The string that an item of the table has for an attribute, if there is one. -/
def read (k name : String) : Option String := attributeOf name (t.items k)

/-- The key of an item is the value that it is stored by. -/
theorem eq_of_read_key {value : String} (h : t.read k t.key = some value) : value = k := by
  unfold read attributeOf at h
  cases hi : t.items k with
  | none => simp [hi] at h
  | some item =>
    have hk : item.lookup t.key = some (.text k) := t.keyed hi
    simpa [hi, hk] using h.symm

/-- A stored item has the attributes that it was written with. -/
theorem read_store (h : item.lookup t.key = some k) (name : String) :
    (t.store item k h).read k name = item.lookup name := by
  have hs : (t.store item k h).items k = some item.stored := Function.update_self ..
  unfold read attributeOf
  rw [hs, Option.bind_some, TextItem.lookup_stored]
  cases item.lookup name <;> rfl

theorem read_store_of_ne (h : item.lookup t.key = some k) {other : String} (hne : other ≠ k)
    (name : String) : (t.store item k h).read other name = t.read other name := by
  have hs : (t.store item k h).items other = t.items other := Function.update_of_ne hne ..
  unfold read
  rw [hs]

end KeyedTable

/-! ## Services that store items -/

/-- The server stores items: one that is put successfully goes into its table, by the value of its key,
and what is got is the item that is stored by the key. `view` gives the tables by name. -/
structure StoresItems (server : Server σ) (view : σ → String → Option KeyedTable) : Prop where
  put : ∀ {s s' : σ} {table : String} {t : KeyedTable} {item : TextItem} {k : String}
    (h : item.lookup t.key = some k), view s table = some t →
      server.answer (.putItem table item) s = (.output (), s') →
        view s' table = some (t.store item k h)
  get : ∀ {s : σ} {table : String} {t : KeyedTable} (k : String), view s table = some t →
    ∃ o, (server.answer (.getItem table [(t.key, k)]) s).1 = .output o ∧
      ∀ name, o.bind (·.lookup name) = (t.items k).bind (·.lookup name)

namespace Tables

/-! ## What is written -/

/-- The value that an item is stored by: that of an attribute named like the key, if it has one. -/
def placeOf (key keyValue name value : String) : String := if name = key then value else keyValue

theorem placeOf_eq_iff {key keyValue name value : String} :
    placeOf key keyValue name value = keyValue ↔ (name = key → value = keyValue) := by
  unfold placeOf
  split
  · case isTrue h => simp [h]
  · case isFalse h => simp [h]

theorem lookup_item_key (key keyValue name value : String) :
    (item key keyValue name value).lookup key = some (placeOf key keyValue name value) := by
  rw [item_eq]
  unfold placeOf
  split <;> simp

theorem lookup_item_name (key keyValue name value : String) :
    (item key keyValue name value).lookup name = some value := by
  rw [item_eq]
  split
  · case isTrue h => simp [h]
  · case isFalse h =>
    have hb : (name == key) = false := by simpa using h
    simp [List.lookup_cons, hb]

/-! ## Putting and getting -/

variable {server : Server σ} {view : σ → String → Option KeyedTable} {ids : Nat → Uuid}
  {w w' : World σ} {table : String} {t : KeyedTable}

theorem attempt_getItem (hs : StoresItems server view) (ht : view w.service table = some t)
    (k name : String) :
    (Session.attempt (getItem table t.key k name) server ids w).1 = .ok (t.read k name) := by
  obtain ⟨o, ho, hlookup⟩ := hs.get k ht
  obtain ⟨w', e, -⟩ := ((Method.getItem table t.key k name).asks rfl).run server ids w
  have hread : (Method.getItem table t.key k name).read
      (server.answer (.getItem table [(t.key, k)]) w.service).1 = .ok (attributeOf name o) := by
    rw [ho]
    rfl
  have hsame : attributeOf name o = t.read k name := by
    unfold KeyedTable.read attributeOf
    rw [hlookup]
  rw [← hsame, ← hread]
  exact congrArg Prod.fst e

theorem view_of_putItem (hs : StoresItems server view) (ht : view w.service table = some t)
    {keyValue name value k : String} (hk : (item t.key keyValue name value).lookup t.key = some k)
    (hput : Session.attempt (putItem table t.key keyValue name value) server ids w = (.ok (), w')) :
    view w'.service table = some (t.store (item t.key keyValue name value) k hk) := by
  let m := Method.putItem table t.key keyValue name value
  obtain ⟨after, e, n⟩ := (m.asks rfl).run server ids w
  obtain ⟨hread, rfl⟩ := Prod.mk.inj (e.symm.trans hput)
  -- a reply that is read as a success is one
  have hreply : (server.answer m.request w.service).1 = .output () := by
    cases hr : (server.answer m.request w.service).1 with
    | output u => rfl
    | error report =>
      rw [hr] at hread
      cases hread
    | lost call =>
      rw [hr] at hread
      cases hread
  rw [n.service]
  exact hs.put hk ht (Prod.ext hreply rfl)

/-- **An item that has been written comes back under its key, and no other has changed, exactly when an
attribute named like the key repeats the value of the key**, whatever the table holds. Any other
attribute that is named like the key takes the key's place. -/
theorem getItem_putItem_iff (hs : StoresItems server view) (ht : view w.service table = some t)
    (keyValue name value : String)
    (hput : Session.attempt (putItem table t.key keyValue name value) server ids w = (.ok (), w')) :
    ((Session.attempt (getItem table t.key keyValue name) server ids w').1 = .ok (some value) ∧
      ∀ other, other ≠ keyValue → ∀ field,
        (Session.attempt (getItem table t.key other field) server ids w').1 =
          (Session.attempt (getItem table t.key other field) server ids w).1) ↔
      (name = t.key → value = keyValue) := by
  constructor
  · rintro ⟨hback, -⟩ rfl
    have hstored := view_of_putItem hs ht (lookup_item_key ..) hput
    -- what is found under a key has that key
    have hkey : _ = Except.ok (some value) := (attempt_getItem hs hstored _ _).symm.trans hback
    injection hkey with hkey
    exact KeyedTable.eq_of_read_key _ hkey
  · intro h
    have hplace : (item t.key keyValue name value).lookup t.key = some keyValue := by
      rw [lookup_item_key, placeOf_eq_iff.2 h]
    have hstored := view_of_putItem hs ht hplace hput
    constructor
    · calc (Session.attempt (getItem table t.key keyValue name) server ids w').1
        _ = .ok ((t.store _ keyValue hplace).read keyValue name) := attempt_getItem hs hstored _ _
        _ = .ok (some value) := by rw [t.read_store hplace, lookup_item_name]
    · intro other hne field
      calc (Session.attempt (getItem table t.key other field) server ids w').1
        _ = .ok ((t.store _ keyValue hplace).read other field) := attempt_getItem hs hstored _ _
        _ = .ok (t.read other field) := by rw [t.read_store_of_ne hplace hne]
        _ = (Session.attempt (getItem table t.key other field) server ids w).1 :=
          (attempt_getItem hs ht _ _).symm

/-! ## A service in memory -/

/-- The table with an item that has a key. -/
def storeKeyed? (t : KeyedTable) (item : TextItem) : Option KeyedTable :=
  match h : item.lookup t.key with
  | some k => some (t.store item k h)
  | none => none

theorem storeKeyed?_eq_some {item : TextItem} {k : String} (h : item.lookup t.key = some k) :
    storeKeyed? t item = some (t.store item k h) := by
  unfold storeKeyed?
  split
  next j hj =>
    obtain rfl : j = k := Option.some.inj (hj.symm.trans h)
    rfl
  next hnone =>
    rw [hnone] at h
    cases h

/-- The error for a table that is missing. -/
def missing : Fault := .modeled "ResourceNotFoundException" (some "Requested resource not found")

/-- A service that keeps tables of items, and nothing else. -/
def cabinet : Server (String → Option KeyedTable) where
  answer
    | .putItem table item, s =>
      match s table with
      | none => (.error missing, s)
      | some t =>
        match storeKeyed? t item with
        | none => (.error (.unmodeled "ValidationException" (some "Missing the key in the item")), s)
        | some stored => (.output (), Function.update s table (some stored))
    | .getItem table key, s =>
      match s table with
      | none => (.error missing, s)
      | some t => (.output ((key.lookup t.key).bind t.items), s)
    | _, s => (.error (.unmodeled "UnknownOperationException" none), s)

theorem cabinet_stores : StoresItems cabinet id where
  put := by
    intro s s' table t item k h ht hanswer
    have hs : s table = some t := ht
    simp only [cabinet, hs, storeKeyed?_eq_some h, Prod.mk.injEq] at hanswer
    obtain ⟨-, rfl⟩ := hanswer
    exact Function.update_self ..
  get := by
    intro s table t k ht
    have hs : s table = some t := ht
    refine ⟨t.items k, ?_, fun name => rfl⟩
    simp [cabinet, hs]

/-- A table with one item. -/
def greetings : KeyedTable where
  key := "id"
  items k := if k = "2" then some [("id", .text "2"), ("greeting", .text "hello")] else none
  keyed := by
    intro k item h
    split at h
    · case isTrue hk =>
      cases h
      rw [hk]
      rfl
    · cases h

/-- A cabinet with that table. -/
def opened : World (String → Option KeyedTable) :=
  .start (Function.update (fun _ => none) "users" (some greetings))

/-- An item put into the cabinet: what the call comes to, and the world after it. -/
def putting (keyValue name value : String) :
    Except ClientError Unit × World (String → Option KeyedTable) :=
  Session.attempt (putItem "users" "id" keyValue name value) cabinet (fun _ => 7) opened

/-- What is got from the cabinet. -/
def got (k name : String) (w : World (String → Option KeyedTable)) :
    Except ClientError (Option String) :=
  (Session.attempt (getItem "users" "id" k name) cabinet (fun _ => 7) w).1

/-- A greeting comes back, and the other is as it was. -/
theorem greeting_comes_back :
    StoresItems cabinet id ∧ opened.service "users" = some greetings ∧
      (putting "1" "greeting" "good day").1 = .ok () ∧
      got "1" "greeting" (putting "1" "greeting" "good day").2 = .ok (some "good day") ∧
      got "2" "greeting" (putting "1" "greeting" "good day").2 = .ok (some "hello") := by
  have hput : Session.attempt (putItem "users" greetings.key "1" "greeting" "good day") cabinet
      (fun _ => 7) opened = (.ok (), (putting "1" "greeting" "good day").2) := rfl
  have hsame : "greeting" = greetings.key → "good day" = "1" := by
    intro h
    exact absurd h (by decide)
  obtain ⟨hback, hothers⟩ :=
    (getItem_putItem_iff cabinet_stores rfl "1" "greeting" "good day" hput).2 hsame
  exact ⟨cabinet_stores, rfl, rfl, hback, hothers "2" (by decide) "greeting"⟩

/-- A key that is named once more is lost: the item is put under another key, in place of the one that
was there. -/
theorem renamed_key_lost :
    StoresItems cabinet id ∧ opened.service "users" = some greetings ∧
      (putting "1" "id" "2").1 = .ok () ∧
      got "1" "id" (putting "1" "id" "2").2 ≠ .ok (some "2") ∧
      got "2" "greeting" (putting "1" "id" "2").2 ≠ got "2" "greeting" opened := by
  have hmissing : got "1" "id" (putting "1" "id" "2").2 = .ok none := rfl
  have hbefore : got "2" "greeting" opened = .ok (some "hello") := rfl
  have hafter : got "2" "greeting" (putting "1" "id" "2").2 = .ok none := rfl
  refine ⟨cabinet_stores, rfl, rfl, ?_, ?_⟩
  · rw [hmissing]
    simp
  · rw [hafter, hbefore]
    simp

end Tables

end CloudRehearsal
