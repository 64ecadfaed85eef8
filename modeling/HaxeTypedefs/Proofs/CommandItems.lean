/-
Command lines, item by item.

The words of a command line give a list of items: values, flags, letters, and a misuse
at the end if there is one.  Reading the arguments is accepting the items one after the
other.  Asking for more logging changes the verbosity and nothing else, so its items can
be left out wherever they stand.

* **`Arguments.read_eq_foldlM`** — reading is accepting the items in their order;
* **`Arguments.map_quiet_read`** — the items that ask for logging matter to the verbosity only;
* **`quietItems_insert`** — where a flag that asks for logging may stand;
* **`Arguments.foldlM_eq_ok`** — the values and the strictness that the items give.
-/
import HaxeTypedefs.CommandLine.Arguments

namespace HaxeTypedefs

/-! ### The items of a command line -/

/-- One thing that a command line gives. -/
inductive CommandItem where
  | value (option : ValueOption) (word : String)
  | flag (name : String)
  | letter (c : Char)
  /-- what is wrong with the words from here on -/
  | misuse (what : Misuse)
  deriving DecidableEq, Repr

namespace CommandItem

/-- The items of words, of which the first is the value of `awaiting`. -/
def ofWords (awaiting : Option ValueOption) : List String → List CommandItem
  | [] =>
    match awaiting with
    | some option => [.misuse (.missingValue option.name)]
    | none => []
  | word :: words =>
    match awaiting, Arguments.Word.of word with
    | some option, .plain => .value option word :: ofWords none words
    | some option, _ => [.misuse (.missingValue option.name)]
    | none, .plain => [.misuse (.unexpectedArgument word)]
    | none, .letters cs => cs.map .letter ++ ofWords none words
    | none, .separator =>
      match words with
      | [] => []
      | argument :: _ => [.misuse (.unexpectedArgument argument)]
    | none, .long name given =>
      match ValueOption.ofName? name, given with
      | some option, some given => .value option given :: ofWords none words
      | some option, none => ofWords (some option) words
      | none, some _ =>
        [.misuse (if name ∈ Arguments.flagNames then .valueForFlag name else .unknownOption word)]
      | none, none => .flag name :: ofWords none words

/-- The item asks for more logging. -/
def AsksForLogging (i : CommandItem) : Prop := i = .flag "verbose" ∨ i = .letter 'v'

instance : DecidablePred AsksForLogging :=
  fun i => inferInstanceAs (Decidable (i = .flag "verbose" ∨ i = .letter 'v'))

/-- The value that the item gives to the option. -/
def value? (option : ValueOption) : CommandItem → Option String
  | value option' word => if option' = option then some word else none
  | _ => none

end CommandItem

/-- What the words of a command line give. -/
def commandItems (words : List String) : List CommandItem := CommandItem.ofWords none words

/-- The items that do not ask for logging. -/
def quietItems (words : List String) : List CommandItem :=
  (commandItems words).filter fun i => ¬ i.AsksForLogging

theorem Arguments.Word.of_eq_separator_iff {word : String} :
    of word = .separator ↔ word = "--" := by
  constructor
  · intro h
    unfold of at h
    split at h
    case h_1 htext => exact String.toList_injective htext
    all_goals cases h
  · rintro rfl
    rfl

/-- Words that leave no option without its value go on with the items of what comes behind them, or
they are misused and nothing behind them is read. -/
theorem CommandItem.ofWords_append {awaiting : Option ValueOption} {words : List String}
    (h : ∀ name, .misuse (.missingValue name) ∉ ofWords awaiting words) (hsep : "--" ∉ words) :
    (∀ rest, ofWords awaiting (words ++ rest) = ofWords awaiting words ++ ofWords none rest) ∨
      ∀ rest, ofWords awaiting (words ++ rest) = ofWords awaiting words := by
  induction words generalizing awaiting with
  | nil =>
    cases awaiting with
    | none => exact .inl fun rest => rfl
    | some option => exact absurd (List.mem_singleton_self _) (h _)
  | cons word words ih =>
    rw [List.mem_cons, not_or] at hsep
    have hnext : ∀ {awaiting : Option ValueOption} (is : List CommandItem),
        (∀ name, .misuse (.missingValue name) ∉ is ++ ofWords awaiting words) →
          (∀ rest, is ++ ofWords awaiting (words ++ rest) =
            is ++ ofWords awaiting words ++ ofWords none rest) ∨
          ∀ rest, is ++ ofWords awaiting (words ++ rest) = is ++ ofWords awaiting words := by
      intro awaiting is hvalues
      rcases ih (fun name hmem => hvalues name (List.mem_append_right _ hmem)) hsep.2 with hih | hih
      · exact .inl fun rest => by rw [hih, List.append_assoc]
      · exact .inr fun rest => by rw [hih]
    have hmissing : ∀ {name : String},
        ¬ ∀ name', .misuse (.missingValue name') ∉ [CommandItem.misuse (.missingValue name)] :=
      fun h => h _ (List.mem_singleton_self _)
    -- the items behind are one list from here on, so that only those of the words are opened
    generalize ofWords none = behind at hnext ⊢
    revert h
    simp only [List.cons_append]
    unfold ofWords
    cases hword : Arguments.Word.of word with
    | separator => exact absurd (Arguments.Word.of_eq_separator_iff.mp hword).symm hsep.1
    | plain =>
      cases awaiting with
      | none => exact fun _ => .inr fun rest => rfl
      | some option => exact hnext [.value option word]
    | letters cs =>
      cases awaiting with
      | none => exact hnext (cs.map .letter)
      | some option => exact fun h => absurd h hmissing
    | long name given =>
      cases awaiting with
      | some option => exact fun h => absurd h hmissing
      | none =>
        dsimp only
        cases ValueOption.ofName? name with
        | some option =>
          cases given with
          | some given => exact hnext [.value option given]
          | none => exact hnext []
        | none =>
          cases given with
          | some given => exact fun _ => .inr fun rest => rfl
          | none => exact hnext [.flag name]

/-- The flags that ask for logging may stand behind any words that wait for nothing. -/
theorem quietItems_insert {before : List String}
    (h : ∀ name, .misuse (.missingValue name) ∉ commandItems before) (hsep : "--" ∉ before)
    {word : String} (hword : word ∈ ["-v", "--verbose"]) (after : List String) :
    quietItems (before ++ word :: after) = quietItems (before ++ after) := by
  have hasks : (CommandItem.ofWords none (word :: after)).filter (fun i => ¬ i.AsksForLogging) =
      (CommandItem.ofWords none after).filter fun i => ¬ i.AsksForLogging := by
    simp only [List.mem_cons, List.not_mem_nil, or_false] at hword
    rcases hword with rfl | rfl
    · have hv : CommandItem.ofWords none ("-v" :: after) =
          .letter 'v' :: CommandItem.ofWords none after := rfl
      rw [hv, List.filter_cons_of_neg (by decide)]
    · have hverbose : CommandItem.ofWords none ("--verbose" :: after) =
          .flag "verbose" :: CommandItem.ofWords none after := rfl
      rw [hverbose, List.filter_cons_of_neg (by decide)]
  rcases CommandItem.ofWords_append h hsep with happend | happend
  · simp only [quietItems, commandItems, happend, List.filter_append, hasks]
  · simp only [quietItems, commandItems, happend]

namespace Arguments

/-- Takes an item to what has been given before. -/
def accept (a : Arguments) : CommandItem → Except Stop Arguments
  | .value option word => a.set option word
  | .flag name => a.readFlag name
  | .letter c => a.readLetters [c]
  | .misuse what => .error (.misuse what)

theorem readLetters_eq_foldlM (a : Arguments) (cs : List Char) :
    a.readLetters cs = (cs.map CommandItem.letter).foldlM accept a := by
  fun_induction a.readLetters cs with
  | case1 a => rfl
  | case2 a letters ih => exact ih
  | case3 a letters => rfl
  | case4 a letters => rfl
  | case5 a letter letters hv hh hV =>
    have hstop : a.readLetters [letter] =
        .error (.misuse (.unknownOption ("-".push letter))) := by
      unfold readLetters
      split <;> simp_all
    rw [List.map_cons, List.foldlM_cons, accept, hstop]
    rfl

theorem readFrom_eq_foldlM (a : Arguments) (awaiting : Option ValueOption) (words : List String) :
    a.readFrom awaiting words = (CommandItem.ofWords awaiting words).foldlM accept a := by
  induction words generalizing a awaiting with
  | nil => cases awaiting <;> rfl
  | cons word words ih =>
    unfold readFrom CommandItem.ofWords
    cases awaiting with
    | some option =>
      cases Word.of word with
      | plain => exact bind_congr fun a => ih a none
      | long name given => rfl
      | letters cs => rfl
      | separator => rfl
    | none =>
      cases Word.of word with
      | plain => rfl
      | letters cs =>
        rw [List.foldlM_append, ← readLetters_eq_foldlM]
        exact bind_congr fun a => ih a none
      | separator => cases words <;> rfl
      | long name given =>
        dsimp only
        cases ValueOption.ofName? name with
        | some option =>
          cases given with
          | some given => exact bind_congr fun a => ih a none
          | none => exact ih a (some option)
        | none =>
          cases given with
          | some given => rfl
          | none => exact bind_congr fun a => ih a none

theorem read_eq_foldlM (words : List String) :
    read words = (commandItems words).foldlM accept empty :=
  readFrom_eq_foldlM empty none words

/-! ### Asking for more logging -/

/-- What has been given, without what has been asked for in the way of logging. -/
def quiet (a : Arguments) : Arguments := { a with verbosity := 0 }

theorem accept_of_asksForLogging {i : CommandItem} (h : i.AsksForLogging) (a : Arguments) :
    a.accept i = .ok { a with verbosity := a.verbosity + 1 } := by
  rcases h with rfl | rfl <;> rfl

/-- No other item sees the verbosity or changes it. -/
theorem accept_quiet {i : CommandItem} (h : ¬ i.AsksForLogging) (a : Arguments) :
    a.quiet.accept i = (a.accept i).map quiet := by
  -- whether an item is accepted depends on the other fields only, so they are taken apart
  obtain ⟨source, tag, location, strict, verbosity⟩ := a
  cases i with
  | misuse what => rfl
  | value option word =>
    cases option with
    | source =>
      simp only [accept, set, quiet]
      cases SourceKind.ofName? word with
      | none => rfl
      | some kind => cases source <;> rfl
    | tag => cases tag <;> rfl
    | location => cases location <;> rfl
  | flag name =>
    simp only [accept, readFlag]
    split
    · cases strict <;> rfl
    · exact absurd (.inl rfl) h
    all_goals rfl
  | letter c =>
    have hv : c ≠ 'v' := by
      rintro rfl
      exact h (.inr rfl)
    simp only [accept]
    unfold readLetters
    split <;> simp_all [Except.map]

theorem map_quiet_foldlM (a : Arguments) (is : List CommandItem) :
    (is.foldlM accept a).map quiet =
      (is.filter fun i => ¬ i.AsksForLogging).foldlM accept a.quiet := by
  induction is generalizing a with
  | nil => rfl
  | cons i is ih =>
    by_cases h : i.AsksForLogging
    · rw [List.foldlM_cons, accept_of_asksForLogging h, List.filter_cons_of_neg (by simpa using h)]
      exact ih _
    · rw [List.foldlM_cons, List.filter_cons_of_pos (by simpa using h), List.foldlM_cons,
        accept_quiet h]
      cases a.accept i with
      | error stop => rfl
      | ok a' => exact ih a'

/-- The items that ask for logging have an effect on nothing but the verbosity. -/
theorem map_quiet_read (words : List String) :
    (read words).map quiet = (quietItems words).foldlM accept empty := by
  rw [read_eq_foldlM]
  exact map_quiet_foldlM empty (commandItems words)

/-! ### Values and flags -/

/-- The value that an option has got. -/
def value (a : Arguments) : ValueOption → Option String
  | .source => a.source.map SourceKind.name
  | .tag => a.tag
  | .location => a.location

theorem set_eq_ok {a a' : Arguments} {option : ValueOption} {word : String}
    (h : a.set option word = .ok a') :
    (∀ o, a'.value o = (a.value o).or ((CommandItem.value option word).value? o)) ∧
      a'.strict = a.strict := by
  obtain ⟨source, tag, location, strict, verbosity⟩ := a
  cases option with
  | source =>
    simp only [set] at h
    cases hkind : SourceKind.ofName? word with
    | none =>
      rw [hkind] at h
      cases h
    | some kind =>
      have hname : kind.name = word := by
        simpa using List.find?_some hkind
      rw [hkind] at h
      cases source <;> cases h
      refine ⟨fun o => ?_, rfl⟩
      cases o <;> simp [value, CommandItem.value?, hname]
  | tag =>
    cases tag <;> cases h
    refine ⟨fun o => ?_, rfl⟩
    cases o <;> simp [value, CommandItem.value?]
  | location =>
    cases location <;> cases h
    refine ⟨fun o => ?_, rfl⟩
    cases o <;> simp [value, CommandItem.value?]

/-- An item that is accepted gives a value, asks to be strict or asks for logging. -/
theorem accept_cases {a a' : Arguments} {i : CommandItem} (h : a.accept i = .ok a') :
    (∃ option word, i = .value option word ∧ a.set option word = .ok a') ∨
      (i = .flag "strict" ∧ a' = { a with strict := true }) ∨
      (i.AsksForLogging ∧ a' = { a with verbosity := a.verbosity + 1 }) := by
  cases i with
  | misuse what => cases h
  | value option word => exact .inl ⟨option, word, rfl, h⟩
  | flag name =>
    simp only [accept, readFlag] at h
    split at h
    · split at h
      · cases h
      · exact .inr (.inl ⟨rfl, (Except.ok.inj h).symm⟩)
    · exact .inr (.inr ⟨.inl rfl, (Except.ok.inj h).symm⟩)
    all_goals cases h
  | letter c =>
    simp only [accept] at h
    unfold readLetters at h
    split at h
    case h_1 heq => cases heq
    case h_2 heq =>
      obtain ⟨rfl, rfl⟩ := List.cons.inj heq
      exact .inr (.inr ⟨.inr rfl, (Except.ok.inj h).symm⟩)
    all_goals cases h

theorem accept_eq_ok {a a' : Arguments} {i : CommandItem} (h : a.accept i = .ok a') :
    (∀ o, a'.value o = (a.value o).or (i.value? o)) ∧
      (a'.strict = true ↔ a.strict = true ∨ i = .flag "strict") := by
  rcases accept_cases h with ⟨option, word, rfl, hset⟩ | ⟨rfl, rfl⟩ | ⟨rfl | rfl, rfl⟩
  · obtain ⟨hvalue, hstrict⟩ := set_eq_ok hset
    exact ⟨hvalue, by simp [hstrict]⟩
  all_goals
    refine ⟨fun o => ?_, by simp⟩
    cases o <;> simp [value, CommandItem.value?]

/-- Accepted items give the values that come first, and say whether to be strict. -/
theorem foldlM_eq_ok {a a' : Arguments} {is : List CommandItem} (h : is.foldlM accept a = .ok a') :
    (∀ o, a'.value o = (a.value o).or (is.findSome? (CommandItem.value? o))) ∧
      (a'.strict = true ↔ a.strict = true ∨ .flag "strict" ∈ is) := by
  induction is generalizing a with
  | nil =>
    obtain rfl : a = a' := Except.ok.inj h
    simp
  | cons i is ih =>
    rw [List.foldlM_cons] at h
    cases hi : a.accept i with
    | error stop =>
      rw [hi] at h
      cases h
    | ok b =>
      rw [hi] at h
      -- a value that was there before comes first
      obtain ⟨hvalue, hstrict⟩ := accept_eq_ok hi
      obtain ⟨hvalues, hstricts⟩ := ih h
      constructor
      · intro o
        rw [hvalues o, hvalue o, Option.or_assoc]
        congr 1
        rw [List.findSome?_cons]
        cases i.value? o <;> rfl
      · rw [hstricts, hstrict, List.mem_cons, or_assoc, @eq_comm _ i]

end Arguments

end HaxeTypedefs
