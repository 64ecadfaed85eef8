/-
What a run of the program leaves behind.

The settings of a run are told from the items of its command line and from its
environment.  If there are any, the module made from their source is written as a whole,
or nothing is; the verbosity is only handed to the log.

* **`settings_eq`** — the source and the mode that the items and the environment ask for;
* **`exit_of_converts`**, **`exit_of_not_converts`** — the module and exit code zero, or nothing and
  another code;
* **`exit_of_quietItems`** — the same, however much logging is asked for.
-/
import HaxeTypedefs.CommandLine.Program
import HaxeTypedefs.Proofs.CommandItems

namespace HaxeTypedefs

/-! ### What the program is to do -/

/-- The value of an option: from the command line, or else from the environment. -/
def givenValue (words : List String) (env : Environment) (option : ValueOption) : Option String :=
  ((commandItems words).findSome? (CommandItem.value? option)).or (env.value option)

/-- The source that the command line and the environment ask for. -/
def givenSource (words : List String) (env : Environment) : Source :=
  if givenValue words env .source = some SourceKind.copy.name then
    .copy ((givenValue words env .location).getD defaultLocation)
  else .release ((givenValue words env .tag).getD defaultTag)

/-- A conversion is strict if the flag is given. -/
def givenMode (words : List String) : Mode :=
  if .flag "strict" ∈ commandItems words then .strict else .lenient

/-- The command line and the environment are free of misuse, and ask for these settings. -/
def AskFor (words : List String) (env : Environment) (settings : Settings) : Prop :=
  ∃ a, Arguments.read words = .ok a ∧ a.settings env = .ok settings

theorem Arguments.sourceKind_eq_ok {a : Arguments} {env : Environment} {kind : SourceKind}
    (h : a.sourceKind env = .ok kind) :
    (a.value .source).or (env.value .source) = some SourceKind.copy.name ↔ kind = .copy := by
  have hname : ∀ k : SourceKind, some k.name = some SourceKind.copy.name ↔ k = .copy := by
    intro k
    cases k <;> decide
  unfold sourceKind at h
  rw [value, Environment.value]
  cases hsource : a.source with
  | some k =>
    rw [hsource] at h
    obtain rfl : k = kind := Except.ok.inj h
    exact hname k
  | none =>
    cases hvariable : env.source with
    | none =>
      rw [hsource, hvariable] at h
      obtain rfl : .release = kind := Except.ok.inj h
      decide
    | some word =>
      rw [hsource, hvariable] at h
      cases hkind : SourceKind.ofName? word with
      | none => simp [hkind] at h
      | some k =>
        obtain rfl : k = kind := by simpa [hkind] using h
        have hword : k.name = word := by simpa using List.find?_some hkind
        rw [← hword]
        exact hname k

theorem settings_eq {words : List String} {env : Environment} {settings : Settings}
    (h : AskFor words env settings) :
    settings.source = givenSource words env ∧ settings.mode = givenMode words := by
  obtain ⟨a, hread, hsettings⟩ := h
  rw [Arguments.read_eq_foldlM] at hread
  obtain ⟨hvalue, hstrict⟩ := Arguments.foldlM_eq_ok hread
  -- a value on the command line goes before that of the environment
  have hgiven : ∀ option, (a.value option).or (env.value option) = givenValue words env option := by
    intro option
    rw [hvalue, givenValue]
    cases option <;> rfl
  cases hkind : a.sourceKind env with
  | error what => simp [Arguments.settings, hkind, Except.map] at hsettings
  | ok kind =>
    have hcopy := Arguments.sourceKind_eq_ok hkind
    rw [hgiven] at hcopy
    have helse : ∀ x y : Option String, (x <|> y) = x.or y := by
      intro x y
      cases x <;> rfl
    have htag : (a.tag <|> env.tag) = givenValue words env .tag := (helse _ _).trans (hgiven .tag)
    have hlocation : (a.location <|> env.location) = givenValue words env .location :=
      (helse _ _).trans (hgiven .location)
    have hmode : (if a.strict then Mode.strict else .lenient) = givenMode words := by
      have hflag : a.strict = true ↔ .flag "strict" ∈ commandItems words := by
        simpa [Arguments.empty] using hstrict
      simp only [givenMode, hflag]
    simp only [Arguments.settings, hkind, Except.map, Except.ok.injEq] at hsettings
    obtain rfl := hsettings
    refine ⟨?_, hmode⟩
    cases kind with
    | release =>
      have hne : givenValue words env .source ≠ some SourceKind.copy.name :=
        fun hsource => nomatch hcopy.mp hsource
      simp only [givenSource, if_neg hne, htag]
    | copy => simp only [givenSource, if_pos (hcopy.mpr rfl), hlocation]

/-! ### Exits -/

/-- The command line is no misuse, and the source that it asks for is converted. -/
def Converts (words : List String) (env : Environment) (w : World) (converted : String) : Prop :=
  (∃ settings, AskFor words env settings) ∧
    convertSource (givenMode words) w (givenSource words env) = .ok converted

section Exit

variable {words words' : List String} {env : Environment} {w : World}

theorem program_of_askFor {settings : Settings} (h : AskFor words env settings) :
    program words env w = settings.exit env.log w := by
  obtain ⟨a, hread, hsettings⟩ := h
  rw [program, hread]
  simp only [hsettings]

theorem program_of_misuse (hhelp : Arguments.read words ≠ .error .help)
    (hversion : Arguments.read words ≠ .error .version)
    (h : ∀ settings, ¬ AskFor words env settings) :
    ∃ what, program words env w = Misuse.exit what := by
  unfold program
  cases hread : Arguments.read words with
  | error stop =>
    cases stop with
    | help => exact absurd hread hhelp
    | version => exact absurd hread hversion
    | misuse what => exact ⟨what, rfl⟩
  | ok a =>
    cases hsettings : a.settings env with
    | error what => exact ⟨what, by simp only [hsettings]⟩
    | ok settings => exact absurd ⟨a, hread, hsettings⟩ (h settings)

theorem exit_of_converts {converted : String} (h : Converts words env w converted) :
    (program words env w).code = 0 ∧ (program words env w).stdout = converted := by
  obtain ⟨⟨settings, hask⟩, hconvert⟩ := h
  obtain ⟨hsource, hmode⟩ := settings_eq hask
  rw [← hsource, ← hmode] at hconvert
  rw [program_of_askFor hask, Settings.exit, hconvert]
  exact ⟨rfl, rfl⟩

theorem exit_of_not_converts (hhelp : Arguments.read words ≠ .error .help)
    (hversion : Arguments.read words ≠ .error .version)
    (h : ∀ converted, ¬ Converts words env w converted) :
    (program words env w).code ≠ 0 ∧ (program words env w).stdout = "" := by
  by_cases hask : ∃ settings, AskFor words env settings
  · obtain ⟨settings, hsettings⟩ := hask
    obtain ⟨hsource, hmode⟩ := settings_eq hsettings
    rw [program_of_askFor hsettings, Settings.exit]
    cases hconvert : convertSource settings.mode w settings.source with
    | ok converted =>
      rw [hsource, hmode] at hconvert
      exact absurd ⟨⟨settings, hsettings⟩, hconvert⟩ (h converted)
    | error failure => exact ⟨Nat.one_ne_zero, rfl⟩
  · obtain ⟨what, hexit⟩ : ∃ what, program words env w = Misuse.exit what :=
      program_of_misuse hhelp hversion (not_exists.mp hask)
    rw [hexit]
    exact ⟨Nat.succ_ne_zero 1, rfl⟩

/-- The verbosity, and what the environment says about the log, are on their way to the log only. -/
theorem Arguments.settings_of_verbosity (a : Arguments) (env : Environment) (verbosity : Nat)
    (log : Option String) :
    { a with verbosity := verbosity : Arguments }.settings { env with log := log } =
      (a.settings env).map fun settings => { settings with verbosity := verbosity } := by
  have hkind : { a with verbosity := verbosity : Arguments }.sourceKind { env with log := log } =
      a.sourceKind env := rfl
  rw [settings, hkind, settings]
  cases a.sourceKind env with
  | error what => rfl
  | ok kind => cases kind <;> rfl

/-- Two command lines with the same items apart from those that ask for logging are read alike. -/
theorem Arguments.read_of_quietItems (h : quietItems words = quietItems words') :
    (∃ stop, read words = .error stop ∧ read words' = .error stop) ∨
      ∃ a verbosity, read words = .ok a ∧ read words' = .ok { a with verbosity := verbosity } := by
  have hread : (read words).map quiet = (read words').map quiet := by
    rw [map_quiet_read, map_quiet_read, h]
  cases hw : read words with
  | error stop =>
    rw [hw] at hread
    cases hw' : read words' with
    | error stop' =>
      rw [hw'] at hread
      exact .inl ⟨stop, rfl, by rw [Except.error.inj hread]⟩
    | ok a' =>
      rw [hw'] at hread
      cases hread
  | ok a =>
    rw [hw] at hread
    cases hw' : read words' with
    | error stop' =>
      rw [hw'] at hread
      cases hread
    | ok a' =>
      rw [hw'] at hread
      have hquiet : a.quiet = a'.quiet := Except.ok.inj hread
      have hback : { a.quiet with verbosity := a'.verbosity : Arguments } = a' := by
        rw [hquiet]
        rfl
      exact .inr ⟨a, a'.verbosity, rfl, by rw [← hback]; rfl⟩

theorem exit_of_quietItems (h : quietItems words = quietItems words') (log : Option String) :
    neededAccess? words env = neededAccess? words' { env with log := log } ∧
      (program words env w).code = (program words' { env with log := log } w).code ∧
        (program words env w).stdout = (program words' { env with log := log } w).stdout := by
  unfold program neededAccess?
  rcases Arguments.read_of_quietItems h with ⟨stop, hw, hw'⟩ | ⟨a, verbosity, hw, hw'⟩
  · rw [hw, hw']
    cases stop <;> exact ⟨rfl, rfl, rfl⟩
  · rw [hw, hw']
    simp only [Arguments.settings_of_verbosity]
    cases a.settings env with
    | error what => exact ⟨rfl, rfl, rfl⟩
    | ok settings =>
      simp only [Except.map, Settings.exit, true_and]
      cases convertSource settings.mode w settings.source <;> exact ⟨rfl, rfl⟩

end Exit

/-- A run that is not asked for the help or the version ends with code zero and writes the module
that its source is converted to, or it ends with another code and writes nothing.  Neither this nor
what is read depends on how much logging is asked for, be it by flags anywhere in the command line
or by the environment. -/
theorem program_writes_module_or_nothing :
    (∀ words env w, Arguments.read words ≠ .error .help → Arguments.read words ≠ .error .version →
      (∀ converted, Converts words env w converted →
        (program words env w).code = 0 ∧ (program words env w).stdout = converted) ∧
      ((∀ converted, ¬ Converts words env w converted) →
        (program words env w).code ≠ 0 ∧ (program words env w).stdout = "")) ∧
    (∀ words words' env log w, quietItems words = quietItems words' →
      neededAccess? words env = neededAccess? words' { env with log := log } ∧
      (program words env w).code = (program words' { env with log := log } w).code ∧
        (program words env w).stdout = (program words' { env with log := log } w).stdout) ∧
    (∀ before word after, word ∈ ["-v", "--verbose"] →
      (∀ name, .misuse (.missingValue name) ∉ commandItems before) → "--" ∉ before →
      quietItems (before ++ word :: after) = quietItems (before ++ after)) := by
  refine ⟨?_, ?_, ?_⟩
  · intro words env w hhelp hversion
    exact ⟨fun converted h => exit_of_converts h, exit_of_not_converts hhelp hversion⟩
  · intro words words' env log w h
    exact exit_of_quietItems h log
  · intro before word after hword hbefore hsep
    exact quietItems_insert hbefore hsep hword after

/-- A world whose every file is empty. -/
def World.blank : World := ⟨fun _ => .ok "".toByteArray, fun _ => .error (.status 404)⟩

theorem program_of_blank_copy :
    (program ["--source", "local", "--local", "ast.js"] ⟨none, none, none, none⟩ .blank).code = 0 ∧
    (program ["--source", "local", "-vv", "--local", "ast.js", "--verbose"]
      ⟨none, none, none, some "debug"⟩ .blank).code = 0 ∧
    (program ["--local"] ⟨none, none, none, none⟩ .blank).stdout = "" ∧
    quietItems ["--tag", "v14.0.0", "-v", "--strict"] =
      quietItems ["--tag", "v14.0.0", "--strict"] := by
  obtain ⟨hexit, hquiet, hinsert⟩ := program_writes_module_or_nothing
  have hread : Arguments.read ["--source", "local", "--local", "ast.js"] =
      .ok ⟨some .copy, none, some "ast.js", false, 0⟩ := rfl
  have hconverts : Converts ["--source", "local", "--local", "ast.js"] ⟨none, none, none, none⟩
      .blank (assemble "ast.js" (String.ofList (Run.of "".toList).text)) := by
    refine ⟨⟨⟨.copy "ast.js", .lenient, 0⟩, _, hread, rfl⟩, ?_⟩
    have haccess : (Source.copy "ast.js").access = .file "ast.js" := rfl
    have hfetch : (Source.copy "ast.js").fetch .blank = .ok "" :=
      (Source.fetch_eq_ok_iff haccess).mpr rfl
    have hsource : givenSource ["--source", "local", "--local", "ast.js"] ⟨none, none, none, none⟩ =
        .copy "ast.js" := by
      decide
    have hmode : givenMode ["--source", "local", "--local", "ast.js"] = .lenient := by
      decide
    rw [hsource, hmode, convertSource, hfetch]
    exact convert_lenient "" "ast.js"
  have hzero := (hexit _ _ _ (by rw [hread]; nofun) (by rw [hread]; nofun)).1 _ hconverts
  have hsame := hquiet ["--source", "local", "--local", "ast.js"]
    ["--source", "local", "-vv", "--local", "ast.js", "--verbose"] ⟨none, none, none, none⟩
    (some "debug") .blank (by decide)
  refine ⟨hzero.1, hsame.2.1.symm.trans hzero.1, ?_, ?_⟩
  · refine ((hexit ["--local"] _ _ nofun nofun).2 ?_).2
    rintro converted ⟨⟨settings, a, hmisuse, -⟩, -⟩
    cases hmisuse
  · refine hinsert ["--tag", "v14.0.0"] "-v" ["--strict"] (by decide) (fun name => ?_) (by decide)
    have hitems : commandItems ["--tag", "v14.0.0"] = [.value .tag "v14.0.0"] := rfl
    simp [hitems]

end HaxeTypedefs
