import CloudRehearsal.CommandLine.Reading
import Mathlib.Data.List.Nodup
import Mathlib.Data.List.TakeWhile

/-!
Options that stand in one argument each, the value after an equals sign, and what a level makes of a
row of them.

Such an option is complete at once: it waits for nothing and leaves nothing open for the argument
after it. It may still come after an unnamed argument, which is complete only once the option has
been seen. `State.Ready` is what holds of a level all along: `Level.step_mention` keeps it over one
option, `Level.readFrom_mentions` over a row of them that name no option twice.
-/
namespace CloudRehearsal.CommandLine

open Text

variable {α : Type}

/-! ## Values -/

theorem Reader.map_of_ok {β : Type} {read : Reader α} {raw : RawText} {a : α} (h : read raw = .ok a)
    (f : α → β) : Reader.map f read raw = .ok (f a) := by
  rw [map, h]
  rfl

theorem Reader.text_of_some {raw : RawText} {s : String} (h : raw.text? = some s) :
    Reader.text raw = .ok s := by
  rw [text, h]

theorem Reader.addDigit_digitChar (limit n : Nat) :
    ∀ d < 10, Reader.addDigit limit n (Nat.digitChar d) =
      if n * 10 + d < limit then .ok (n * 10 + d)
      else .error "number too large to fit in target type" := by
  intro d hd
  have h : digit? 10 (Nat.digitChar d) = some d := by revert d; decide
  rw [addDigit, h]

/-- The digits of a number below the limit read as that number, since each of them but the last leaves
a smaller one. -/
theorem Reader.foldlM_toDigits (limit n : Nat) (h : n < limit) :
    (Nat.toDigits 10 n).foldlM (addDigit limit) 0 = .ok n := by
  induction n using Nat.strongRecOn with
  | ind n ih =>
    rw [Nat.toDigits_eq_if (by decide)]
    split
    case isTrue hn =>
      rw [List.foldlM_cons, addDigit_digitChar limit 0 n hn, if_pos (by omega)]
      simp only [Nat.zero_mul, Nat.zero_add, List.foldlM_nil]
      rfl
    case isFalse hn =>
      rw [List.foldlM_append, ih (n / 10) (by omega) (by omega)]
      have hd : n / 10 * 10 + n % 10 = n := by omega
      simp only [bind, Except.bind, List.foldlM_cons, List.foldlM_nil]
      rw [addDigit_digitChar limit (n / 10) (n % 10) (by omega), hd, if_pos h]
      rfl

theorem Reader.numberBelow_repr {limit n : Nat} (h : n < limit) :
    numberBelow limit n.repr = .ok n := by
  have hd : ∀ c ∈ Nat.toDigits 10 n, c ≠ '+' := by
    rintro c hc rfl
    exact absurd (Nat.isDigit_of_mem_toDigits (by decide) (by decide) hc) (by decide)
  have hn : Nat.toDigits 10 n ≠ [] := Nat.toDigits_ne_nil
  have hf := foldlM_toDigits limit n h
  rw [numberBelow, Nat.toList_repr]
  generalize Nat.toDigits 10 n = digits at hn hd hf
  split
  case h_1 => exact absurd rfl hn
  case h_2 => exact absurd rfl (hd '+' (by simp))
  case h_3 => exact absurd rfl (hd '+' (by simp))
  case h_4 => exact hf

theorem Reader.number_repr {n : Nat} (h : n < Nat.pow 2 64) : number (.ofString n.repr) = .ok n := by
  rw [number, parsed, text_of_some (RawText.text?_ofString _)]
  simp only [bind, Except.bind, numberBelow_repr h]
  rfl

/-! ## One option in one argument -/

/-- An option as it stands on a command line, and what it says. -/
structure Mention (α : Type) where
  name : String
  value : Option String
  meaning : α

namespace Mention

/-- The argument. -/
def text (w : Mention α) : String :=
  match w.value with
  | none => "--" ++ w.name
  | some value => "--" ++ w.name ++ "=" ++ value

/-- What the argument says, with its name, as a level notes it down. -/
def entry (w : Mention α) : String × α := (w.name, w.meaning)

end Mention

/-- The argument makes `m` of the value. -/
def Argument.Says (a : Argument α) (value : Option RawText) (m : α) : Prop :=
  match a.taking, value with
  | .nothing meaning, none => meaning = m
  | .value read, some value => read value = .ok m
  | _, _ => False

/-- The level has an option of the name, which says what the mention says. -/
structure Level.Takes (l : Level α) (w : Mention α) : Prop where
  option : ∃ a, l.option? w.name = some a ∧ a.Says (w.value.map .ofString) w.meaning
  /-- Help is asked for by every level, and is no option of its own. -/
  ne_help : w.name ≠ "help"
  ne_empty : w.name ≠ ""
  /-- The name ends where the value begins. -/
  no_equals : '=' ∉ w.name.toList

/-- No command looks like an option. -/
def Level.CommandsAreWords (l : Level α) : Prop := ∀ c ∈ l.commands, c.name.toList.head? ≠ some '-'

theorem Mention.ofString_text (w : Mention α) :
    RawText.ofString w.text = .char '-' :: .char '-' ::
      (RawText.ofString w.name ++ w.value.elim [] fun v => .char '=' :: RawText.ofString v) := by
  obtain ⟨name, _ | value, m⟩ := w <;> simp [text, RawText.ofString]

theorem Form.of_hyphens : ∀ {rest : RawText}, rest ≠ [] →
    Form.of (.char '-' :: .char '-' :: rest) =
      .long (rest.takeWhile (· != .char '='))
        (rest.drop (rest.takeWhile (· != .char '=')).length).tail?
  | [], h => absurd rfl h
  | _ :: _, _ => rfl

/-- The name of an option goes up to the first equals sign, and the value is what follows it. -/
theorem Form.of_mention {w : Mention α} (hne : w.name ≠ "") (heq : '=' ∉ w.name.toList) :
    Form.of (.ofString w.text) = .long (.ofString w.name) (w.value.map .ofString) := by
  have hrest : RawText.ofString w.name ≠ [] := by simpa [RawText.ofString] using hne
  have hname : ∀ u ∈ RawText.ofString w.name, (u != .char '=') = true := by
    simp only [RawText.ofString, List.mem_map]
    rintro _ ⟨c, hc, rfl⟩
    simpa using ne_of_mem_of_not_mem hc heq
  rw [Mention.ofString_text, of_hyphens (by simp [hrest])]
  cases w.value <;> simp [List.takeWhile_append_of_pos hname, List.takeWhile_eq_self_iff.2 hname]

theorem Form.of_word {text : String} (h : text.toList.head? ≠ some '-') :
    Form.of (.ofString text) = .word := by
  have hhead : (RawText.ofString text).head? ≠ some (.char '-') := by
    simpa [RawText.ofString, List.head?_map] using h
  unfold Form.of
  split
  case h_1 e => exact absurd (congrArg List.head? e) hhead
  case h_2 e => exact absurd (congrArg List.head? e) hhead
  case h_3 e => exact absurd (congrArg List.head? e) hhead
  case h_4 => rfl

/-! ## One step -/

namespace State

/-- Everything that has been read on the level counts as `given`, nothing waits for a value, and what
looks like an option is one. -/
structure Ready (s : State α) (given : List (String × α)) : Prop where
  settle : s.settle = .ok ⟨given, none, s.placed, false⟩
  waiting : s.waiting? = none
  trailing : s.trailing = false

theorem ready (given : List (String × α)) (placed : Bool) :
    Ready ⟨given, none, placed, false⟩ given :=
  ⟨rfl, rfl, rfl⟩

theorem has_iff {s : State α} {a : Argument α} : s.has a = true ↔ a.name ∈ s.given.map (·.1) := by
  simp [has]

theorem give_new {s : State α} {a : Argument α} (h : a.name ∉ s.given.map (·.1)) (m : α) :
    s.give a m = .ok { s with given := s.given ++ [(a.name, m)] } := by
  rw [give, if_neg (mt has_iff.1 h)]

theorem giveValue_new {s : State α} {a : Argument α} (h : a.name ∉ s.given.map (·.1))
    {read : Reader α} {value : RawText} {m : α} (hread : read value = .ok m) :
    s.giveValue a read value = .ok { s with given := s.given ++ [(a.name, m)] } := by
  rw [giveValue, if_neg (mt has_iff.1 h), hread]
  exact give_new h m

/-- An unnamed argument is complete as soon as something follows it, or nothing. -/
theorem ready_placed {given : List (String × α)} {a : Argument α} {read : Reader α} {value : RawText}
    {m : α} (ha : a.taking = .value read) (hread : read value = .ok m)
    (hnew : a.name ∉ given.map (·.1)) (placed : Bool) :
    Ready ⟨given, some (a, some value), placed, false⟩ (given ++ [(a.name, m)]) where
  settle := by
    simp only [settle, ha]
    exact giveValue_new hnew hread
  waiting := rfl
  trailing := rfl

end State

namespace Level

variable {l : Level α} {s : State α} {given : List (String × α)}

theorem name_of_option? {name : String} {a : Argument α} (h : l.option? name = some a) :
    a.name = name := by
  simpa using List.find?_some h

theorem command?_of_hyphen (hl : l.CommandsAreWords) {text : String}
    (h : text.toList.head? = some '-') : l.command? (.ofString text) = none := by
  rw [command?, RawText.text?_ofString, Option.bind_some, List.find?_eq_none]
  intro c hc hname
  rw [beq_iff_eq] at hname
  exact hl c hc (hname ▸ h)

theorem head?_text (w : Mention α) : w.text.toList.head? = some '-' := by
  obtain ⟨name, _ | value, m⟩ := w <;> simp [Mention.text]

/-- What an option is taken for once its name and its value are known. -/
theorem long_mention {w : Mention α} (hw : l.Takes w) (hs : s.Ready given)
    (hnew : w.name ∉ given.map (·.1)) :
    l.long s (.ofString w.name) (w.value.map .ofString) =
      .ok (.on ⟨given ++ [w.entry], none, s.placed, false⟩) := by
  obtain ⟨a, ha, hsays⟩ := hw.option
  have hname := name_of_option? ha
  have hnot : a.name ∉ (State.mk given none s.placed false).given.map (·.1) := hname ▸ hnew
  have hhelp : (RawText.ofString w.name).text? ≠ some "help" := by
    simpa [RawText.text?_ofString] using hw.ne_help
  have hoption : (RawText.ofString w.name).text?.bind l.option? = some a := by
    rw [RawText.text?_ofString, Option.bind_some, ha]
  unfold long
  rw [if_neg hhelp, hoption, hs.settle]
  unfold Argument.Says at hsays
  split at hsays
  case h_1 meaning htaking hvalue =>
    simp only [htaking, hvalue, bind, Except.bind, State.give_new hnot, hsays, hname]
    rfl
  case h_2 read value htaking hvalue =>
    simp only [htaking, hvalue, bind, Except.bind, State.giveValue_new hnot hsays, hname]
    rfl
  case h_3 => exact hsays.elim

/-- One option more: the level goes on, and what the option says counts. -/
theorem step_mention (hl : l.CommandsAreWords) {w : Mention α} (hw : l.Takes w) (hs : s.Ready given)
    (hnew : w.name ∉ given.map (·.1)) (rest : List RawText) :
    l.step s (.ofString w.text) rest = .ok (.on ⟨given ++ [w.entry], none, s.placed, false⟩) := by
  have hhyphen := head?_text w
  have hhelp : l.isHelp (.ofString w.text) = false := by
    have : w.text ≠ "help" := fun h => absurd (h ▸ hhyphen) (by decide)
    simp [isHelp, RawText.text?_ofString, this]
  unfold step
  rw [hs.trailing, hs.waiting, hhelp, command?_of_hyphen hl hhyphen,
    Form.of_mention hw.ne_empty hw.no_equals]
  simpa using long_mention hw hs hnew

/-- An argument that is neither an option nor a command is the unnamed one, where nothing has been
taken for it yet. It counts with whatever comes next. -/
theorem step_positional (hc : l.commands = []) {a : Argument α} (ha : l.positional = some a)
    {read : Reader α} (htaking : a.taking = .value read) {text : String} {m : α}
    (hread : read (.ofString text) = .ok m) (hword : text.toList.head? ≠ some '-')
    (hs : s.Ready given) (hplaced : s.placed = false) (hnew : a.name ∉ given.map (·.1))
    (rest : List RawText) :
    ∃ t : State α, t.Ready (given ++ [(a.name, m)]) ∧
      l.step s (.ofString text) rest = .ok (.on t) := by
  refine ⟨_, State.ready_placed htaking hread hnew true, ?_⟩
  have hhelp : l.isHelp (.ofString text) = false := by simp [isHelp, hc]
  have hcommand : l.command? (.ofString text) = none := by
    simp [command?, RawText.text?_ofString, hc]
  unfold step
  rw [hs.trailing, hs.waiting, hhelp, hcommand, Form.of_word hword]
  unfold word
  simp only [ha, hplaced, hs.settle]
  rfl

theorem step_command (hs : s.Ready given) {c : Level α} (hc : l.command? (.ofString c.name) = some c)
    (hhelp : c.name ≠ "help") (rest : List RawText) :
    l.step s (.ofString c.name) rest = .ok (.into c) := by
  have hnot : l.isHelp (.ofString c.name) = false := by
    simp [isHelp, RawText.text?_ofString, hhelp]
  unfold step
  rw [hs.trailing, hs.waiting, hnot, hc]
  rfl

/-! ## A row of options -/

/-- Options that are named once each, and not before, all count, in the order in which they stand. -/
theorem readFrom_mentions (hl : l.CommandsAreWords) {ws : List (Mention α)}
    (hws : ∀ w ∈ ws, l.Takes w) (hs : s.Ready given)
    (hnodup : (given.map (·.1) ++ ws.map (·.name)).Nodup) (rest : List RawText) :
    ∃ t : State α, t.Ready (given ++ ws.map (·.entry)) ∧ t.placed = s.placed ∧
      l.readFrom s (ws.map (RawText.ofString ·.text) ++ rest) = l.readFrom t rest := by
  -- The induction is over every ready state, since each option leads to another.
  induction ws generalizing s given with
  | nil => exact ⟨s, by simpa using hs, rfl, rfl⟩
  | cons w ws ih =>
    have hnew : w.name ∉ given.map (·.1) := by
      intro hmem
      exact (List.nodup_append.1 hnodup).2.2 _ hmem _ (by simp) rfl
    obtain ⟨t, ht, hplaced, hread⟩ := ih (fun w' hw' => hws w' (by simp [hw']))
      (State.ready (given ++ [w.entry]) s.placed) (by simpa [Mention.entry] using hnodup)
    refine ⟨t, by simpa using ht, hplaced, ?_⟩
    rw [List.map_cons, List.cons_append, readFrom, step_mention hl (hws w (by simp)) hs hnew]
    exact hread

/-! ## Completing a level -/

/-- What the variable of an option says where the option is not given. -/
def fromVariable (s : State α) (a : Argument α) : Option α :=
  match a.taking, a.fallback with
  | .value read, some value => if s.has a then none else (read value).toOption
  | _, _ => none

theorem fromVariables_eq (s : State α) (h : ∀ a ∈ l.options, ∀ read value,
      a.taking = .value read → a.fallback = some value → ∃ m, read value = .ok m) :
    l.fromVariables s = .ok (l.options.filterMap (fromVariable s)) := by
  unfold fromVariables
  generalize l.options = options at h
  induction options with
  | nil => rfl
  | cons a options ih =>
    have ih := ih fun b hb => h b (List.mem_cons_of_mem a hb)
    rw [List.filterMapM_cons, ih, List.filterMap_cons]
    unfold fromVariable
    cases htaking : a.taking with
    | nothing meaning => rfl
    | value read =>
      cases hfallback : a.fallback with
      | none => rfl
      | some value =>
        obtain ⟨m, hm⟩ := h a List.mem_cons_self read value htaking hfallback
        cases s.has a with
        | true => rfl
        | false =>
          simp only [hm]
          rfl

theorem finish_ready (hs : s.Ready given) {outside : List α} {command : Option (Reading α)}
    (hvariables : l.fromVariables ⟨given, none, s.placed, false⟩ = .ok outside)
    (hcomplete : l.checkComplete ⟨given, none, s.placed, false⟩ outside command.isSome = .ok ()) :
    l.finish s command = .ok ⟨(command.getD ⟨[], []⟩).given ++ l.meaning ++ given.map (·.2),
      (command.getD ⟨[], []⟩).outside ++ outside⟩ := by
  unfold finish
  simp only [bind, Except.bind, hs.settle, hvariables, hcomplete]
  rfl

end Level

end CloudRehearsal.CommandLine
