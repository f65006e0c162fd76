import CloudRehearsal.Invocation
import CloudRehearsal.Proofs.OptionReading

/-!
Flags may stand anywhere on the command line of the program: before the command, after it, and
between its words. Whoever gives each at most once gets one invocation, wherever they stand, and its
endpoint is that of the environment with exactly the given flags applied
(`Invocation.flags_stand_anywhere`).
-/
namespace CloudRehearsal

open Text CommandLine

/-- The variables of the options are unset or texts proper. -/
structure Environment.IsText (env : Environment) : Prop where
  endpointUrl : ∀ raw ∈ env.endpointUrl, raw.text?.isSome
  region : ∀ raw ∈ env.region, raw.text?.isSome

namespace Invocation

/-! ## Flags -/

/-- An option of the program with what is given for it. -/
inductive Flag where
  | endpointUrl (url : String)
  | region (region : String)
  | socketTimeout (seconds : UInt64)
  | format (format : Listing.Format)
  | quiet
  deriving DecidableEq, Repr

namespace Flag

/-- The name of a format on the command line. -/
def formatName : Listing.Format → String
  | .json => "json"
  | .pretty => "pretty"

def name : Flag → String
  | endpointUrl _ => "endpoint-url"
  | region _ => "region"
  | socketTimeout _ => "socket-timeout"
  | format _ => "format"
  | quiet => "quiet"

def value : Flag → Option String
  | endpointUrl url => some url
  | region r => some r
  | socketTimeout seconds => some seconds.toNat.repr
  | format f => some (formatName f)
  | quiet => none

def meaning : Flag → Setting
  | endpointUrl url => .endpointUrl url
  | region r => .region r
  | socketTimeout seconds => .socketTimeout seconds.toNat
  | format f => .format f
  | quiet => .quiet

/-- The flag as it stands on a command line. -/
def mention (f : Flag) : Mention Setting := ⟨f.name, f.value, f.meaning⟩

/-- What the flag says, with its name, as a level notes it down. -/
def entry (f : Flag) : String × Setting := (f.name, f.meaning)

/-- The argument that gives the flag. -/
def text (f : Flag) : String := f.mention.text

/-- The argument as the program gets it. -/
def argument (f : Flag) : RawText := .ofString f.text

/-- The names of the flags. -/
def names : List String := ["endpoint-url", "region", "socket-timeout", "format", "quiet"]

theorem name_mem_names (f : Flag) : f.name ∈ names := by cases f <;> simp [name, names]

theorem option?_name {env : Environment} {l : Level Setting} (hl : l.options = options env)
    (f : Flag) :
    ∃ a, l.option? f.name = some a ∧ a.Says (f.value.map .ofString) f.meaning := by
  unfold Level.option?
  rw [hl]
  cases f with
  | endpointUrl url =>
    exact ⟨_, rfl, Reader.map_of_ok (Reader.text_of_some (RawText.text?_ofString url)) _⟩
  | region r => exact ⟨_, rfl, Reader.map_of_ok (Reader.text_of_some (RawText.text?_ofString r)) _⟩
  | socketTimeout seconds =>
    exact ⟨_, rfl, Reader.map_of_ok (Reader.number_repr seconds.toNat_lt) _⟩
  | format f => cases f <;> exact ⟨_, rfl, rfl⟩
  | quiet => exact ⟨_, rfl, rfl⟩

theorem takes {env : Environment} {l : Level Setting} (hl : l.options = options env) (f : Flag) :
    l.Takes f.mention :=
  have h : ∀ n ∈ names, n ≠ "help" ∧ n ≠ "" ∧ '=' ∉ n.toList := by decide
  { option := option?_name hl f
    ne_help := (h _ f.name_mem_names).1
    ne_empty := (h _ f.name_mem_names).2.1
    no_equals := (h _ f.name_mem_names).2.2 }

/-- The argument without a name is told from the flags by its name. -/
theorem target_notMem (flags : List Flag) : "target" ∉ flags.map (·.name) := by
  have h : ∀ n ∈ names, n ≠ "target" := by decide
  rintro hmem
  obtain ⟨f, -, hf⟩ := List.mem_map.1 hmem
  exact h f.name f.name_mem_names hf

end Flag

/-- Flags, each given at most once. -/
structure Flags where
  endpointUrl : Option String
  region : Option String
  socketTimeout : Option UInt64
  format : Option Listing.Format
  quiet : Bool

namespace Flags

/-- The flags that are given. -/
def list (f : Flags) : List Flag :=
  (f.endpointUrl.map .endpointUrl).toList ++ (f.region.map .region).toList ++
    (f.socketTimeout.map .socketTimeout).toList ++ (f.format.map .format).toList ++
    if f.quiet then [.quiet] else []

/-- The endpoint with the given flags applied to it. -/
def applied (f : Flags) (e : Endpoint) : Endpoint :=
  let e := f.endpointUrl.elim e e.withUrl
  let e := f.region.elim e e.withRegion
  f.socketTimeout.elim e fun seconds => e.withSocketTimeout (.ofSeconds seconds.toNat)

theorem names_list_sublist (f : Flags) : (f.list.map (·.name)).Sublist Flag.names := by
  have hoption {β : Type} (o : Option β) (c : β → Flag) (name : String) (h : ∀ b, (c b).name = name) :
      ((o.map c).toList.map (·.name)).Sublist [name] := by
    cases o <;> simp [h]
  have hquiet : ((if f.quiet then [Flag.quiet] else []).map (·.name)).Sublist ["quiet"] := by
    cases f.quiet <;> decide
  simp only [list, List.map_append]
  exact ((((hoption f.endpointUrl _ "endpoint-url" fun _ => rfl).append
    (hoption f.region _ "region" fun _ => rfl)).append
    (hoption f.socketTimeout _ "socket-timeout" fun _ => rfl)).append
    (hoption f.format _ "format" fun _ => rfl)).append hquiet

theorem nodup_names_list (f : Flags) : (f.list.map (·.name)).Nodup :=
  f.names_list_sublist.nodup (by decide)

/-- What the flags and a command say. -/
def settings (f : Flags) (c : Command) : List Setting := .command c :: f.list.map (·.meaning)

/-- What a query finds among the settings, kind by kind. -/
theorem filterMap_settings {β : Type} (f : Flags) (c : Command) (p : Setting → Option β) :
    (f.settings c).filterMap p = (p (.command c)).toList ++
      ((f.endpointUrl.bind fun url => p (.endpointUrl url)).toList ++
        (f.region.bind fun r => p (.region r)).toList ++
        (f.socketTimeout.bind fun seconds => p (.socketTimeout seconds.toNat)).toList ++
        (f.format.bind fun x => p (.format x)).toList ++
        if f.quiet then (p .quiet).toList else []) := by
  have hcommand (settings : List Setting) :
      (.command c :: settings).filterMap p = (p (.command c)).toList ++ settings.filterMap p := by
    rw [List.filterMap_cons]
    cases p (.command c) <;> rfl
  have hoption {γ : Type} (o : Option γ) (flag : γ → Flag) :
      ((o.map flag).toList.map (·.meaning)).filterMap p =
        (o.bind fun b => p (flag b).meaning).toList := by
    cases o with
    | none => rfl
    | some b => cases h : p (flag b).meaning <;> simp [h]
  have hquiet : ((if f.quiet then [Flag.quiet] else []).map (·.meaning)).filterMap p =
      if f.quiet then (p .quiet).toList else [] := by
    cases f.quiet with
    | false => rfl
    | true => cases h : p .quiet <;> simp [Flag.meaning, h]
  simp only [settings, hcommand, list, List.map_append, List.filterMap_append, hoption, hquiet]
  rfl

theorem mem_settings_quiet (f : Flags) (c : Command) : .quiet ∈ f.settings c ↔ f.quiet = true := by
  simp [settings, list, Flag.meaning]

theorem endpointUrl_notMem {f : Flags} (h : f.endpointUrl = none) :
    "endpoint-url" ∉ "target" :: f.list.map (·.name) := by
  simp [list, h, Flag.name]

theorem region_notMem {f : Flags} (h : f.region = none) :
    "region" ∉ "target" :: f.list.map (·.name) := by
  simp [list, h, Flag.name]

end Flags

/-! ## One level -/

/-- What a variable says, unless its option is among the names that are given. -/
def leftText (given : List String) (name : String) (raw : Option RawText) : Option String :=
  if name ∈ given then none else raw.bind (·.text?)

/-- What the variables say about the options that are not given. -/
def leftToVariables (env : Environment) (given : List String) : List Setting :=
  ((leftText given "endpoint-url" env.endpointUrl).map .endpointUrl).toList ++
    ((leftText given "region" env.region).map .region).toList

variable {env : Environment} {l : Level Setting} {s : State Setting} {given : List (String × Setting)}

theorem fromVariable_text (s : State Setting) (name : String) (c : String → Setting)
    (raw : Option RawText) :
    Level.fromVariable s (.option name (Reader.text.map c) raw) =
      (leftText (s.given.map (·.1)) name raw).map c := by
  cases raw with
  | none => simp [Level.fromVariable, Argument.option, leftText]
  | some value =>
    have hvalue : ((Reader.text.map c) value).toOption = value.text?.map c := by
      unfold Reader.map Reader.text
      cases value.text? <;> rfl
    simp only [Level.fromVariable, Argument.option, State.has_iff, hvalue, leftText, Option.bind_some]
    split <;> rfl

theorem fromVariables_options (henv : env.IsText) (hl : l.options = options env) (s : State Setting) :
    l.fromVariables s = .ok (leftToVariables env (s.given.map (·.1))) := by
  have hread : ∀ a ∈ l.options, ∀ read value,
      a.taking = .value read → a.fallback = some value → ∃ m, read value = .ok m := by
    have htext {raw : RawText} (h : raw.text?.isSome) (c : String → Setting) :
        ∃ m, (Reader.text.map c) raw = .ok m :=
      have ⟨_, h⟩ := Option.isSome_iff_exists.1 h
      ⟨_, Reader.map_of_ok (Reader.text_of_some h) c⟩
    simp only [hl, options, List.mem_cons, List.not_mem_nil, or_false]
    rintro a (rfl | rfl | rfl | rfl | rfl) read value htaking hfallback
    · cases htaking; exact htext (henv.endpointUrl value hfallback) _
    · cases htaking; exact htext (henv.region value hfallback) _
    · cases hfallback
    · cases hfallback
    · cases hfallback
  rw [Level.fromVariables_eq s hread, hl]
  simp only [options, leftToVariables, List.filterMap_cons, fromVariable_text]
  cases leftText (s.given.map (·.1)) "endpoint-url" env.endpointUrl <;>
    cases leftText (s.given.map (·.1)) "region" env.region <;> rfl

/-- Flags on a level, wherever they stand between its other arguments. -/
theorem readFrom_flags (hl : l.options = options env) (hwords : l.CommandsAreWords)
    (hs : s.Ready given) {flags : List Flag}
    (hnodup : (given.map (·.1) ++ flags.map (·.name)).Nodup) (rest : List RawText) :
    ∃ t : State Setting, t.Ready (given ++ flags.map (·.entry)) ∧ t.placed = s.placed ∧
      l.readFrom s (flags.map (·.argument) ++ rest) = l.readFrom t rest := by
  have htakes : ∀ w ∈ flags.map (·.mention), l.Takes w := by
    intro w hw
    obtain ⟨f, -, rfl⟩ := List.mem_map.1 hw
    exact f.takes hl
  have hnames : (given.map (·.1) ++ (flags.map (·.mention)).map (·.name)).Nodup := by
    simpa [Function.comp_def, Flag.mention] using hnodup
  simpa [Function.comp_def, Flag.argument, Flag.text, Flag.mention, Flag.entry, Mention.entry] using
    l.readFrom_mentions hwords htakes hs hnames rest

theorem finish_options (henv : env.IsText) (hl : l.options = options env) (hs : s.Ready given)
    {command : Option (Reading Setting)}
    (hcomplete : ∀ outside,
      l.checkComplete ⟨given, none, s.placed, false⟩ outside command.isSome = .ok ()) :
    l.finish s command = .ok ⟨(command.getD ⟨[], []⟩).given ++ l.meaning ++ given.map (·.2),
      (command.getD ⟨[], []⟩).outside ++ leftToVariables env (given.map (·.1))⟩ :=
  Level.finish_ready hs (fromVariables_options henv hl _) (hcomplete _)

theorem commandsAreWords_program : (program env).CommandsAreWords := by
  simp [Level.CommandsAreWords, program, sampleLevel, checkLevel]

theorem command?_program {c : Level Setting} (hc : c ∈ (program env).commands) :
    (program env).command? (.ofString c.name) = some c ∧ c.name ≠ "help" := by
  simp only [program, List.mem_cons, List.not_mem_nil, or_false] at hc
  unfold Level.command?
  rcases hc with rfl | rfl
  · rw [RawText.text?_ofString]
    exact ⟨rfl, (by decide : "sample" ≠ "help")⟩
  · rw [RawText.text?_ofString]
    exact ⟨rfl, (by decide : "check" ≠ "help")⟩

/-- The program's own part of a command line: flags, and then a command that is read to its end. -/
theorem readFrom_program (henv : env.IsText) {c : Level Setting} (hc : c ∈ (program env).commands)
    {before : List Flag} (hnodup : (before.map (·.name)).Nodup) {rest : List RawText}
    {r : Reading Setting} (hr : c.readFrom .start rest = .ok r) :
    (program env).readFrom .start (before.map (·.argument) ++ .ofString c.name :: rest) =
      .ok ⟨r.given ++ before.map (·.meaning),
        r.outside ++ leftToVariables env (before.map (·.name))⟩ := by
  obtain ⟨hcommand, hhelp⟩ := command?_program hc
  obtain ⟨t, ht, -, hread⟩ :=
    readFrom_flags (l := program env) rfl commandsAreWords_program (State.ready [] false) hnodup
      (.ofString c.name :: rest)
  have hstep := Level.step_command ht hcommand hhelp rest
  calc (program env).readFrom .start _
      = (program env).readFrom t (.ofString c.name :: rest) := hread
    _ = (program env).finish t (some r) := by
      rw [Level.readFrom, hstep]
      simp only [bind, Except.bind, hr]
    _ = _ := finish_options henv rfl ht fun _ => rfl
    _ = _ := by simp [program, Flag.entry, Function.comp_def]

theorem readFrom_checkLevel (henv : env.IsText) {after : List Flag}
    (hnodup : (after.map (·.name)).Nodup) :
    (checkLevel env).readFrom .start (after.map (·.argument)) =
      .ok ⟨.command .check :: after.map (·.meaning), leftToVariables env (after.map (·.name))⟩ := by
  obtain ⟨t, ht, -, hread⟩ :=
    readFrom_flags (l := checkLevel env) rfl nofun (State.ready [] false) hnodup []
  rw [List.append_nil] at hread
  calc (checkLevel env).readFrom .start _
      = (checkLevel env).finish t none := hread
    _ = _ := finish_options henv rfl ht fun _ => rfl
    _ = _ := by simp [checkLevel, Flag.entry, Function.comp_def]

/-! ### The target of a sample -/

theorem head?_of_sameLetters {s t : String} (h : sameLetters s t = true) :
    s.toList.head?.map lower = t.toList.head?.map lower := by
  simp only [sameLetters, beq_iff_eq] at h
  simpa [List.head?_map] using congrArg List.head? h

theorem head?_of_ofName {name : String} {target : SampleTarget}
    (h : SampleTarget.ofName name = .ok target) : name.toList.head? ≠ some '-' := by
  have hletters {s : String} (hs : s.toList.head?.map lower ≠ some '-')
      (hsame : sameLetters s name = true) : name.toList.head? ≠ some '-' := by
    intro hname
    exact hs ((head?_of_sameLetters hsame).trans (congrArg (Option.map lower) hname))
  unfold SampleTarget.ofName Service.ofId at h
  split at h
  case isTrue hall => exact hletters (by decide) hall
  case isFalse =>
    split at h
    case h_1 service hfind =>
      have hsame : sameLetters service.id name = true := by simpa using List.find?_some hfind
      exact hletters (by cases service <;> decide) hsame
    case h_2 => cases h

theorem readFrom_sampleLevel (henv : env.IsText) {target : SampleTarget} {name : String}
    (htarget : SampleTarget.ofName name = .ok target) {between after : List Flag}
    (hnodup : ((between ++ after).map (·.name)).Nodup) :
    (sampleLevel env).readFrom .start
        (between.map (·.argument) ++ .ofString name :: after.map (·.argument)) =
      .ok ⟨between.map (·.meaning) ++ .command (.sample target) :: after.map (·.meaning),
        leftToVariables env (between.map (·.name) ++ "target" :: after.map (·.name))⟩ := by
  have hvalue : Reader.parsed readTarget (.ofString name) = .ok (.command (.sample target)) := by
    unfold Reader.parsed
    rw [Reader.text_of_some (RawText.text?_ofString name)]
    simp only [bind, Except.bind, readTarget, htarget]
    rfl
  have hnames : (between.map (·.name) ++ "target" :: after.map (·.name)).Nodup := by
    rw [List.nodup_middle, List.nodup_cons, ← List.map_append]
    exact ⟨Flag.target_notMem _, hnodup⟩
  obtain ⟨t, ht, hplaced, hflags⟩ :=
    readFrom_flags (l := sampleLevel env) rfl nofun (State.ready [] false)
      (List.nodup_append.1 hnames).1 (.ofString name :: after.map (·.argument))
  obtain ⟨u, hu, hstep⟩ :=
    Level.step_positional (l := sampleLevel env) rfl rfl rfl hvalue (head?_of_ofName htarget) ht
      hplaced (by simpa [Function.comp_def, Flag.entry, Argument.positional]
        using Flag.target_notMem between) (after.map (·.argument))
  obtain ⟨v, hv, -, hafter⟩ :=
    readFrom_flags (l := sampleLevel env) rfl nofun hu
      (by simpa [Function.comp_def, Flag.entry, Argument.positional] using hnames) []
  rw [List.append_nil] at hafter
  calc (sampleLevel env).readFrom .start _
      = (sampleLevel env).readFrom t (.ofString name :: after.map (·.argument)) := hflags
    _ = (sampleLevel env).readFrom u (after.map (·.argument)) := by
      rw [Level.readFrom, hstep]
      rfl
    _ = (sampleLevel env).finish v none := hafter
    _ = _ := finish_options henv rfl hv fun _ => if_pos (State.has_iff.2 (by simp))
    _ = _ := by simp [sampleLevel, Flag.entry, Argument.positional, Function.comp_def]

/-! ## The whole line -/

/-- A command line: the words of the command in their order, and flags anywhere among them. -/
inductive Line : Command → List Flag → List String → Prop where
  | check (before after : List Flag) :
      Line .check (before ++ after) (before.map (·.text) ++ "check" :: after.map (·.text))
  | sample {target : SampleTarget} {name : String} (h : SampleTarget.ofName name = .ok target)
      (before between after : List Flag) :
      Line (.sample target) (before ++ between ++ after)
        (before.map (·.text) ++ "sample" :: (between.map (·.text) ++ name :: after.map (·.text)))

/-- The settings of a command line, up to their order, and what is left to the variables: on the
command's level and on the program's, which may each name other options. -/
theorem readFrom_line (henv : env.IsText) {c : Command} {flags : List Flag} {args : List String}
    (h : Line c flags args) (hnodup : (flags.map (·.name)).Nodup) :
    ∃ (given : List Setting) (inner outer : List String),
      (program env).readFrom .start (args.map .ofString) =
        .ok ⟨given, leftToVariables env inner ++ leftToVariables env outer⟩ ∧
      given.Perm (.command c :: flags.map (·.meaning)) ∧
      inner ++ outer ⊆ "target" :: flags.map (·.name) := by
  cases h with
  | check before after =>
    rw [List.map_append, List.nodup_append] at hnodup
    have hread := readFrom_program henv (c := checkLevel env) (by simp [program]) hnodup.1
      (readFrom_checkLevel henv hnodup.2.1)
    refine ⟨_, _, _, by simp only [List.map_append, List.map_cons, List.map_map]; exact hread, ?_, ?_⟩
    · rw [List.map_append]
      exact .cons _ List.perm_append_comm
    · intro n
      simp only [List.map_append, List.mem_append, List.mem_cons]
      tauto
  | sample htarget before between after =>
    rw [List.append_assoc, List.map_append, List.nodup_append] at hnodup
    have hread := readFrom_program henv (c := sampleLevel env) (by simp [program]) hnodup.1
      (readFrom_sampleLevel henv htarget hnodup.2.1)
    refine ⟨_, _, _, by simp only [List.map_append, List.map_cons, List.map_map]; exact hread, ?_, ?_⟩
    · rw [List.append_assoc, List.cons_append, List.map_append, List.map_append]
      refine List.perm_middle.trans (.cons _ ?_)
      rw [← List.append_assoc, List.append_assoc (before.map _)]
      exact List.perm_append_comm
    · intro n
      simp only [List.map_append, List.mem_append, List.mem_cons]
      tauto

/-! ## From settings to the invocation -/

/-- What the flags, the environment and the defaults come to. -/
def Flags.invocation (f : Flags) (env : Environment) (c : Command) : Invocation where
  endpointUrl := (f.endpointUrl.or (env.endpointUrl.bind (·.text?))).getD Endpoint.defaultUrl
  region := (f.region.or (env.region.bind (·.text?))).getD Endpoint.defaultRegion
  socketTimeout := f.socketTimeout.map (·.toNat)
  format := f.format.getD .default
  quiet := f.quiet
  command := c

theorem endpoint_invocation (f : Flags) (env : Environment) (c : Command) :
    (f.invocation env c).endpoint = f.applied (.ofEnvironment env) := by
  obtain ⟨url, region, timeout, -, -⟩ := f
  cases url <;> cases region <;> cases timeout <;> rfl

/-- A query that at most one setting answers does not depend on their order. -/
theorem findSome?_of_perm {β : Type} {settings settings' : List Setting} (h : settings.Perm settings')
    {p : Setting → Option β} {o : Option β} (ho : settings'.filterMap p = o.toList) :
    settings.findSome? p = o := by
  have hperm := h.filterMap p
  rw [ho] at hperm
  rw [← List.head?_filterMap]
  cases o with
  | none => rw [hperm.eq_nil]; rfl
  | some b => rw [List.perm_singleton.1 hperm]; rfl

theorem findSome?_leftToVariables {β : Type} (env : Environment) (names : List String)
    (p : Setting → Option β) :
    (leftToVariables env names).findSome? p =
      ((leftText names "endpoint-url" env.endpointUrl).bind fun url => p (.endpointUrl url)).or
        ((leftText names "region" env.region).bind fun r => p (.region r)) := by
  have hoption (o : Option String) (c : String → Setting) :
      (o.map c).toList.findSome? p = o.bind fun s => p (c s) := by
    cases o with
    | none => rfl
    | some s => cases h : p (c s) <;> simp [h]
  rw [leftToVariables, List.findSome?_append, hoption, hoption]

/-- The variable of an option speaks on both levels when the option is on neither, and not at all when
the option is given. -/
theorem or_leftText {o : Option String} {name : String} {inner outer : List String}
    (h : o = none → name ∉ inner ++ outer) (raw : Option RawText) :
    o.or ((leftText inner name raw).or (leftText outer name raw)) = o.or (raw.bind (·.text?)) := by
  cases o with
  | some s => rfl
  | none =>
    obtain ⟨hinner, houter⟩ := not_or.1 (mt List.mem_append.2 (h rfl))
    simp [leftText, hinner, houter]

section

variable {f : Flags} {c : Command} {given : List Setting} {inner outer : List String}

theorem findSome?_line {β : Type} (hgiven : given.Perm (f.settings c)) {p : Setting → Option β}
    {o : Option β} (ho : (f.settings c).filterMap p = o.toList) :
    (given ++ (leftToVariables env inner ++ leftToVariables env outer)).findSome? p =
      o.or (((leftToVariables env inner).findSome? p).or
        ((leftToVariables env outer).findSome? p)) := by
  rw [List.findSome?_append, List.findSome?_append, findSome?_of_perm hgiven ho]

theorem contains_quiet (hgiven : given.Perm (f.settings c)) :
    (given ++ (leftToVariables env inner ++ leftToVariables env outer)).contains .quiet =
      f.quiet := by
  simp [List.contains_eq_mem, hgiven.mem_iff, Flags.mem_settings_quiet, leftToVariables]

/-- The settings of a command line come to one invocation, in whatever order they are. -/
theorem ofSettings?_line (hgiven : given.Perm (f.settings c))
    (hnames : inner ++ outer ⊆ "target" :: f.list.map (·.name)) :
    ofSettings? (given ++ (leftToVariables env inner ++ leftToVariables env outer)) =
      some (f.invocation env c) := by
  have hurl : f.endpointUrl = none → "endpoint-url" ∉ inner ++ outer :=
    fun h hmem => Flags.endpointUrl_notMem h (hnames hmem)
  have hregion : f.region = none → "region" ∉ inner ++ outer :=
    fun h hmem => Flags.region_notMem h (hnames hmem)
  have hcommand : (f.settings c).filterMap (·.command?) = (some c).toList := by
    rw [f.filterMap_settings]
    simp [Setting.command?]
  have hendpointUrl : (f.settings c).filterMap (·.endpointUrl?) = f.endpointUrl.toList := by
    rw [f.filterMap_settings]
    simp [Setting.endpointUrl?]
  have hregion? : (f.settings c).filterMap (·.region?) = f.region.toList := by
    rw [f.filterMap_settings]
    simp [Setting.region?]
  have htimeout : (f.settings c).filterMap (·.socketTimeout?) =
      (f.socketTimeout.map (·.toNat)).toList := by
    rw [f.filterMap_settings]
    cases f.socketTimeout <;> simp [Setting.socketTimeout?]
  have hformat : (f.settings c).filterMap (·.format?) = f.format.toList := by
    rw [f.filterMap_settings]
    simp [Setting.format?]
  rw [ofSettings?, contains_quiet hgiven, findSome?_line hgiven hendpointUrl,
    findSome?_line hgiven hregion?, findSome?_line hgiven htimeout, findSome?_line hgiven hformat,
    findSome?_line hgiven hcommand]
  simp [Flags.invocation, ← or_leftText hurl, ← or_leftText hregion, findSome?_leftToVariables,
    Setting.endpointUrl?, Setting.region?, Setting.socketTimeout?, Setting.format?]

end

/-! ## Placement -/

/-- **Flags may stand anywhere**, before the command, after it and between its words: the invocation
that is read depends on which flags are given, and on nothing else. Its endpoint is the environment's
with the given flags applied, so that without them it is the environment's own. -/
theorem flags_stand_anywhere {env : Environment} (henv : env.IsText) (c : Command) (f : Flags) :
    ∃ i : Invocation,
      (∀ flags args, flags.Perm f.list → Line c flags args → read env (args.map .ofString) = .ok i) ∧
      i.command = c ∧ i.format = f.format.getD .default ∧ i.quiet = f.quiet ∧
      i.endpoint = f.applied (.ofEnvironment env) ∧
      (f.endpointUrl = none → f.region = none → f.socketTimeout = none →
        i.endpoint = .ofEnvironment env) := by
  have hendpoint := endpoint_invocation f env c
  refine ⟨f.invocation env c, ?_, rfl, rfl, rfl, hendpoint, ?_⟩
  · intro flags args hperm hline
    have hnodup : (flags.map (·.name)).Nodup := (hperm.map _).nodup_iff.2 f.nodup_names_list
    obtain ⟨given, inner, outer, hread, hgiven, hnames⟩ := readFrom_line henv hline hnodup
    have hsettings : ofSettings? (given ++ (leftToVariables env inner ++ leftToVariables env outer)) =
        some (f.invocation env c) :=
      ofSettings?_line (hgiven.trans (.cons _ (hperm.map _)))
        (List.Subset.trans hnames (List.cons_subset_cons _ (hperm.map _).subset))
    unfold Invocation.read Level.readAs Level.read
    rw [hread]
    simp only [bind, Except.bind, pure, Except.pure, Reading.settings, hsettings]
  · intro hurl hregion htimeout
    rw [hendpoint, Flags.applied, hurl, hregion, htimeout]
    rfl

/-- A URL that is set to the empty text is set, and the region on the command line counts before the
variable's. -/
theorem sample_read_among_flags :
    ∃ i : Invocation,
      read ⟨some (.ofString ""), some (.ofString "eu-west-1"), none⟩
          (["--region=us-west-2", "sample", "--quiet", "S3", "--socket-timeout=60"].map .ofString) =
        .ok i ∧
      i.command = .sample (.one .storage) ∧ i.quiet = true ∧
      i.endpoint = ⟨"", "us-west-2", some (.ofSeconds 60)⟩ := by
  have hset {s : String} : ∀ raw ∈ some (RawText.ofString s), raw.text?.isSome := by
    rintro _ ⟨⟩
    rw [RawText.text?_ofString]
    rfl
  have henv : Environment.IsText ⟨some (.ofString ""), some (.ofString "eu-west-1"), none⟩ :=
    ⟨hset, hset⟩
  have hname : SampleTarget.ofName "S3" = .ok (.one .storage) := rfl
  obtain ⟨i, hread, hcommand, -, hquiet, hendpoint, -⟩ :=
    flags_stand_anywhere henv (.sample (.one .storage)) ⟨none, some "us-west-2", some 60, none, true⟩
  have hline := Line.sample hname [.region "us-west-2"] [.quiet] [.socketTimeout 60]
  exact ⟨i, hread _ _ (by decide) hline, hcommand, hquiet, hendpoint⟩

end Invocation

end CloudRehearsal
