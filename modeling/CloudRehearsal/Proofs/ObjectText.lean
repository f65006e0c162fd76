import CloudRehearsal.Proofs.MemoryMock
import CloudRehearsal.Proofs.Utf8Reading

/-!
Objects that hold text. Whatever body comes back for an object, its bytes are given as they are, and its
text exactly when the bytes are well-formed (`Body.Read`); nothing is replaced and nothing guessed. A
store that returns what was put then returns every text unchanged, since what is put are the bytes of
the text.
-/
namespace CloudRehearsal

open Text Utf8

variable {σ : Type}

/-! ## Bodies -/

/-- What the two readings of a complete body come to. -/
structure Body.Read (body : List UInt8) (asBytes : Except ClientError (List UInt8))
    (asText : Except ClientError String) : Prop where
  bytes : asBytes = .ok body
  text : (∃ s, asText = .ok s) ↔ WellFormed body
  encoded : ∀ s, asText = .ok s → s.toUTF8.data.toList = body
  /-- The error names where the text at the start ends, and whether the body only ends too early. -/
  fault : ¬ WellFormed body → ∃ index, LongestText body index ∧
    (EndsInside body →
      asText = .error (.body s!"incomplete utf-8 byte sequence from index {index}")) ∧
    (¬ EndsInside body → ∃ width : Nat,
      asText = .error (.body s!"invalid utf-8 sequence of {width} bytes from index {index}"))

namespace Method

theorem textOf_eq_ok_iff {bs : List UInt8} {s : String} : textOf bs = .ok s ↔ bytes s = bs := by
  rw [← text?_eq_ok_iff, textOf]
  cases text? bs <;> simp

theorem textOf_of_error {bs : List UInt8} {fault : Utf8.Fault} (h : text? bs = .error fault) :
    textOf bs = .error (.body fault.message) := by
  rw [textOf, h]

/-- What is not well-formed is reported with the place and the kind of its first fault. -/
theorem textOf_of_not_wellFormed {bs : List UInt8} (h : ¬ WellFormed bs) :
    ∃ index, LongestText bs index ∧
      (EndsInside bs →
        textOf bs = .error (.body s!"incomplete utf-8 byte sequence from index {index}")) ∧
      (¬ EndsInside bs → ∃ width : Nat,
        textOf bs = .error (.body s!"invalid utf-8 sequence of {width} bytes from index {index}")) := by
  cases hread : text? bs with
  | ok s => exact absurd (wellFormed_iff.2 ⟨s, hread⟩) h
  | error fault =>
    have htext := textOf_of_error hread
    refine ⟨fault.index, longestText_of_error hread, fun hends => ?_, fun hends => ?_⟩
    · rw [htext, Text.Utf8.Fault.message, (width_eq_none_iff hread).2 hends]
    · have hsome : fault.width ≠ none := fun hn => hends ((width_eq_none_iff hread).1 hn)
      obtain ⟨width, hw⟩ := Option.ne_none_iff_exists'.1 hsome
      exact ⟨width, by rw [htext, Text.Utf8.Fault.message, hw]⟩

theorem read_complete (bucket key : String) (body : List UInt8) :
    Body.Read body ((getBytes bucket key).read (.output (.complete body)))
      ((getText bucket key).read (.output (.complete body))) := by
  have htext : (getText bucket key).read (.output (.complete body)) = textOf body := rfl
  rw [htext]
  refine ⟨rfl, ?_, fun s hs => ?_, textOf_of_not_wellFormed⟩
  · rw [wellFormed_iff]
    simp only [textOf_eq_ok_iff, text?_eq_ok_iff]
  · rw [← bytes_eq]
    exact textOf_eq_ok_iff.1 hs

section

variable {bucket key : String} (hb : bucket ≠ "") (hk : key ≠ "")
include hb hk

theorem sends_getText : (getText bucket key).Sends := (if_neg hb).trans (if_neg hk)

/-- The bytes and the text of an object come from the body that the service returns for it. -/
theorem attempt_download (server : Server σ) (ids : Nat → Uuid) (w : World σ) {body : List UInt8}
    (h : (server.answer (.getObject bucket key) w.service).1 = .output (.complete body)) :
    Body.Read body (Session.attempt (Buckets.getBytes bucket key) server ids w).1
      (Session.attempt (Buckets.getText bucket key) server ids w).1 := by
  obtain ⟨_, hbytes, -⟩ := (asks (getBytes bucket key) (sends_getBytes hb hk)).run server ids w
  obtain ⟨_, htext, -⟩ := (asks (getText bucket key) (sends_getText hb hk)).run server ids w
  rw [hbytes, htext]
  simp only [h]
  exact read_complete bucket key body

end

end Method

/-! ## Stores -/

/-- The objects of each bucket that is there. -/
abbrev Objects : Type := String → Option (String → Option (List UInt8))

/-- The server stores objects: into a bucket that is there everything can be put, and what is in it comes
back. `view` shows what is stored. -/
structure StoresObjects (server : Server σ) (view : σ → Objects) : Prop where
  put : ∀ s bucket key body objects, view s bucket = some objects →
    (server.answer (.putObject bucket key body) s).1 = .output () ∧
      view (server.answer (.putObject bucket key body) s).2 =
        Function.update (view s) bucket (some (Function.update objects key (some body)))
  get : ∀ s bucket key objects body, view s bucket = some objects → objects key = some body →
    (server.answer (.getObject bucket key) s).1 = .output (.complete body) ∧
      view (server.answer (.getObject bucket key) s).2 = view s

theorem Faithful.storesObjects {server : Server σ} {view : σ → Mock} (h : Faithful server view) :
    StoresObjects server fun s => (view s).buckets where
  put s bucket key body objects hthere := by
    obtain ⟨hreply, hafter⟩ := h.answers s (.putObject bucket key body) objects hthere
    exact ⟨hreply, congrArg Mock.buckets hafter⟩
  get s bucket key objects body hthere hbody := by
    obtain ⟨hreply, hafter⟩ := h.answers s (.getObject bucket key) objects body hthere hbody
    exact ⟨hreply, congrArg Mock.buckets hafter⟩

namespace StoresObjects

variable {server : Server σ} {view : σ → Objects} (hs : StoresObjects server view)
include hs

theorem putText {bucket key : String} (hb : bucket ≠ "") (hk : key ≠ "") (ids : Nat → Uuid)
    {w : World σ} {objects : String → Option (List UInt8)} (h : view w.service bucket = some objects)
    (content : String) :
    ∃ w', Session.attempt (Buckets.putText bucket key content) server ids w = (.ok (), w') ∧
      view w'.service bucket = some (Function.update objects key (some (bytes content))) := by
  obtain ⟨w', e, n⟩ := (Method.asks _ (Method.sends_putText hb hk content)).run server ids w
  obtain ⟨hreply, hafter⟩ := hs.put w.service bucket key (bytes content) objects h
  rw [hreply] at e
  refine ⟨w', e, ?_⟩
  rw [n.service]
  exact (congrFun hafter bucket).trans (Function.update_self ..)

theorem getText {bucket key : String} (hb : bucket ≠ "") (hk : key ≠ "") (ids : Nat → Uuid)
    {w : World σ} {objects : String → Option (List UInt8)} (h : view w.service bucket = some objects)
    {content : String} (hobject : objects key = some (bytes content)) :
    (Session.attempt (Buckets.getText bucket key) server ids w).1 = .ok content := by
  obtain ⟨w', e, -⟩ := (Method.asks _ (Method.sends_getText hb hk)).run server ids w
  rw [e, (hs.get w.service bucket key objects (bytes content) h hobject).1]
  exact Method.textOf_eq_ok_iff.2 rfl

end StoresObjects

/-! ## Texts survive -/

/-- **Object text survives byte for byte.** The bytes of a body that has come through are given as they
are; its text is given exactly when they are well-formed, and encodes to them; any other body is an
error that says where the text at the start ends and whether the body is incomplete. So from a store
that returns what was put, every text comes back unchanged. -/
theorem objectText_survives (server : Server σ) (ids : Nat → Uuid) {bucket key : String}
    (hb : bucket ≠ "") (hk : key ≠ "") :
    (∀ (w : World σ) (body : List UInt8),
      (server.answer (.getObject bucket key) w.service).1 = .output (.complete body) →
        Body.Read body (Session.attempt (Buckets.getBytes bucket key) server ids w).1
          (Session.attempt (Buckets.getText bucket key) server ids w).1) ∧
    (∀ view, StoresObjects server view →
      ∀ (w : World σ) objects, view w.service bucket = some objects → ∀ content, ∃ w',
        Session.attempt (Buckets.putText bucket key content) server ids w = (.ok (), w') ∧
          (Session.attempt (Buckets.getText bucket key) server ids w').1 = .ok content) := by
  refine ⟨fun w body h => Method.attempt_download hb hk server ids w h, ?_⟩
  intro view hs w objects h content
  obtain ⟨w', e, hafter⟩ := hs.putText hb hk ids h content
  exact ⟨w', e, hs.getText hb hk ids hafter (Function.update_self ..)⟩

/-- A receipt that has been cut off inside its last character. -/
def cutReceipt : List UInt8 := [0x61, 0x62, 0xe2, 0x82]

/-- A mock with the receipt in its one bucket. -/
def withReceipt : World Memory :=
  .start ⟨∅, (∅ : Std.HashMap ..).insert "receipts" ((∅ : Std.HashMap ..).insert "cut.txt" cutReceipt),
    [], 0, ∅, ∅⟩

/-- The receipt is reported as incomplete after its two letters, and another text over it comes back. -/
theorem receipt_text :
    "receipts" ≠ "" ∧ "cut.txt" ≠ "" ∧
      (Session.attempt (Buckets.getText "receipts" "cut.txt") Memory.server (fun _ => 0)
        withReceipt).1 = .error (.body "incomplete utf-8 byte sequence from index 2") ∧
      ∃ w', Session.attempt (Buckets.putText "receipts" "cut.txt" "paid ✓") Memory.server (fun _ => 0)
          withReceipt = (.ok (), w') ∧
        (Session.attempt (Buckets.getText "receipts" "cut.txt") Memory.server (fun _ => 0) w').1 =
          .ok "paid ✓" := by
  have hb : "receipts" ≠ "" := by decide
  have hk : "cut.txt" ≠ "" := by decide
  obtain ⟨hread, hstored⟩ := objectText_survives Memory.server (fun _ => 0) hb hk
  have hbody : (Memory.server.answer (.getObject "receipts" "cut.txt") withReceipt.service).1 =
      .output (.complete cutReceipt) := by
    simp [Memory.server, Memory.getObject, withReceipt, World.start]
  have hcut : text? cutReceipt = .error ⟨2, none⟩ := by
    have hstop : Stops none [0xe2, 0x82] := .cut rfl
    have hread := chars?_of_stops ['a', 'b'] hstop
    exact congrArg (Except.map String.ofList) hread
  have hill : ¬ WellFormed cutReceipt := fun h => by
    obtain ⟨s, hs⟩ := wellFormed_iff.1 h
    rw [hcut] at hs
    cases hs
  obtain ⟨index, hindex, hinside, -⟩ := (hread withReceipt cutReceipt hbody).fault hill
  have htwo : index = 2 := hindex.unique (longestText_of_error hcut)
  refine ⟨hb, hk, ?_, ?_⟩
  · rw [hinside ((width_eq_none_iff hcut).1 rfl), htwo]
    rfl
  · exact hstored _ Memory.faithful.storesObjects withReceipt _ (by
      simp only [Memory.view, withReceipt, World.start, shown_insert]
      exact Function.update_self ..) "paid ✓"

end CloudRehearsal
