/-
Optional fields and their names.

`optionalField` takes a word with `?:` behind it for an optional field, and with the field
what marks its type as optional once more.  A match may begin anywhere in a word, but the
search comes to the first character of a name first, and never stops within one: each name is
put into Haxe's field as a whole, and no place where a name ends is passed over.

* **`OptionalField.places_written`** — a field has one place where a name ends;
* **`OptionalField.FullNames`** — the names are as long as they go;
* **`OptionalField.exists_of_factors`** — the matches of a search are such fields;
* **`Rule.optionalField_rewrites_fields`** — every text has these fields and is otherwise kept.
-/
import HaxeTypedefs.Proofs.Gap
import HaxeTypedefs.Proofs.Matches

namespace HaxeTypedefs

/-- A field with an optional type: its name, and what is read behind the colon. -/
structure OptionalField where
  name : List Char
  mark : List Char
  name_ne_nil : name ≠ []
  isWord_of_mem : ∀ c ∈ name, isWord c = true

/-- The text begins with the last character of a name, and `?:` stands behind it. -/
def endsName : List Char → Bool
  | [] => false
  | c :: rest => isWord c && "?:".toList.isPrefixOf rest

namespace OptionalField

/-- The field as it is found. -/
def written (f : OptionalField) : List Char := f.name ++ ("?:".toList ++ f.mark)

/-- The field as it is put in. -/
def inHaxe (f : OptionalField) : List Char := "?".toList ++ f.name ++ " /* opt */ :".toList

/-- A text with fields, what stands before the first of them and what stands behind each. -/
def layOut (put : OptionalField → List Char) (gap : List Char)
    (fields : List (OptionalField × List Char)) : List Char :=
  gap ++ fields.flatMap fun x => put x.1 ++ x.2

theorem layOut_cons (put : OptionalField → List Char) (gap : List Char) (f : OptionalField)
    (gap' : List Char) (fields : List (OptionalField × List Char)) :
    layOut put gap ((f, gap') :: fields) = gap ++ (put f ++ layOut put gap' fields) := by
  simp [layOut]

/-- Behind the first text, each name begins where a word does, and each field has what may be read
behind its colon. -/
inductive FullNames : (behind gap : List Char) → List (OptionalField × List Char) → Prop
  | last {behind gap : List Char} : FullNames behind gap []
  | next {behind gap gap' : List Char} {f : OptionalField} {fields : List (OptionalField × List Char)} :
      (behind ++ gap).getLast?.any isWord = false →
        Target.OptionalMark f.mark (layOut written gap' fields) →
          FullNames (behind ++ gap ++ f.written) gap' fields →
            FullNames behind gap ((f, gap') :: fields)

/-! ### Where names end -/

theorem endsName_cons_of_not_word {c : Char} (h : isWord c = false) (x : List Char) :
    endsName (c :: x) = false := by
  rw [endsName, h, Bool.false_and]

theorem endsName_cons_of_word {x : List Char} (h : x.head?.any isWord = true) (c : Char) :
    endsName (c :: x) = false := by
  cases x with
  | nil => cases h
  | cons d x =>
    have hd : isWord d = true := h
    have hne : ('?' == d) = false := by
      rw [beq_eq_false_iff_ne]
      rintro rfl
      exact absurd hd (by decide)
    simp [endsName, List.isPrefixOf, hne]

/-- What is read behind a name has no word character. -/
theorem isWord_eq_false_of_mem_mark {z rest : List Char} (h : Target.OptionalMark z rest) :
    ∀ c ∈ "?:".toList ++ z, isWord c = false := by
  refine List.forall_mem_append.mpr ⟨by decide, ?_⟩
  rcases h with ⟨bl, rfl, -, hbl⟩ | ⟨rfl, -⟩
  · refine List.forall_mem_append.mpr ⟨?_, by decide⟩
    intro c hc
    exact isWord_eq_false_of_isBlank (hbl c hc)
  · intro c hc
    cases hc

/-- A field has one place where a name ends. -/
theorem places_written (f : OptionalField) {ahead : List Char}
    (hmark : Target.OptionalMark f.mark ahead) :
    places endsName (f.written ++ ahead) = places endsName ahead + 1 := by
  obtain ⟨init, c, hname⟩ : ∃ init c, f.name = init ++ [c] :=
    ⟨_, _, (List.dropLast_append_getLast f.name_ne_nil).symm⟩
  have hword : ∀ d ∈ init ++ [c], isWord d = true := by
    rw [← hname]
    exact f.isWord_of_mem
  have hsplit : f.written ++ ahead = init ++ (c :: (("?:".toList ++ f.mark) ++ ahead)) := by
    simp [written, hname]
  -- a character that is not the last has a word character behind it
  have hinit : places endsName (init ++ (c :: (("?:".toList ++ f.mark) ++ ahead))) =
      places endsName (c :: (("?:".toList ++ f.mark) ++ ahead)) := by
    refine places_append_of_forall fun u d v hu => ?_
    refine endsName_cons_of_word ?_ d
    cases v with
    | nil => exact hword c (by simp)
    | cons e v => exact hword e (by simp [hu])
  have hmarked : places endsName (("?:".toList ++ f.mark) ++ ahead) = places endsName ahead := by
    refine places_append_of_forall fun u d v hu => ?_
    refine endsName_cons_of_not_word (isWord_eq_false_of_mem_mark hmark d ?_) _
    rw [hu]
    exact List.mem_append_right _ List.mem_cons_self
  have hlast : endsName (c :: (("?:".toList ++ f.mark) ++ ahead)) = true := by
    have hc : isWord c = true := hword c (by simp)
    simp [endsName, hc]
  rw [hsplit, hinit, places_cons, hmarked, hlast, if_pos rfl, Nat.add_comm]

/-! ### The matches of a search -/

variable {behind gap ahead : List Char} {b : Option Char}

theorem matches_of_name {w : List Char} (hne : w ≠ []) (hw : ∀ c ∈ w, isWord c = true) :
    Target.optionalField.Matches ⟨b, w ++ ("?:".toList ++ ahead)⟩ :=
  ⟨_, Target.reads_optionalField_iff.mpr ⟨w, .absent, ahead, rfl, hne, hw, .inl rfl, rfl⟩⟩

/-- No name ends in a gap. -/
theorem places_append_of_free (h : Target.optionalField.Free behind gap ahead) :
    places endsName (gap ++ ahead) = places endsName ahead := by
  refine places_append_of_forall fun u c v hgap => ?_
  by_contra hends
  have hnot := h u c v hgap
  rw [Bool.not_eq_false, List.cons_append, endsName, Bool.and_eq_true,
    List.isPrefixOf_iff_prefix] at hends
  obtain ⟨hc, rest, hrest⟩ := hends
  rw [List.cons_append, ← hrest] at hnot
  exact hnot (matches_of_name (w := [c]) (List.cons_ne_nil c []) (by simpa using hc))

/-- A gap before a name does not end with a word character, if what lies before the gap does
not. -/
theorem getLast?_any_of_free {w : List Char} (hw : ∀ c ∈ w, isWord c = true)
    (hbehind : behind.getLast?.any isWord = false)
    (h : Target.optionalField.Free behind gap (w ++ ("?:".toList ++ ahead))) :
    (behind ++ gap).getLast?.any isWord = false := by
  rw [List.getLast?_append]
  cases hlast : gap.getLast? with
  | none => simpa using hbehind
  | some c =>
    obtain ⟨init, rfl⟩ := List.getLast?_eq_some_iff.mp hlast
    by_contra hc
    -- the name would begin with that character
    have hword : ∀ d ∈ c :: w, isWord d = true :=
      List.forall_mem_cons.mpr ⟨by simpa using hc, hw⟩
    exact h init c [] rfl (matches_of_name (w := c :: w) (List.cons_ne_nil c w) hword)

/-- The matches of a search are fields under their full names, one for each place where a name
ends. -/
theorem exists_of_factors {ms : List (Match × List Char)}
    (h : Target.optionalField.Factors behind gap ms)
    (hbehind : behind.getLast?.any isWord = false) :
    ∃ fields, FullNames behind gap fields ∧ spelled gap ms = layOut written gap fields ∧
      Substitution.rendered ⟨Target.optionalField, .template "?" " /* opt */ :"⟩ gap ms =
        layOut inHaxe gap fields ∧
      fields.length = ms.length ∧ places endsName (spelled gap ms) = fields.length := by
  induction h with
  | @last behind gap hfree =>
    refine ⟨[], .last, rfl, rfl, rfl, ?_⟩
    have hnone := places_append_of_free hfree
    simpa [spelled, places, endsName] using hnone
  | @next behind gap gap' m ms hfree hne hm hms ih =>
    obtain ⟨w, z, rest, hahead, hw, hword, hmark, rfl⟩ := Target.chooses_optionalField_iff.mp hm
    have htext : (⟨[], w, "?:".toList ++ z⟩ : Match).text = w ++ ("?:".toList ++ z) := rfl
    rw [htext] at hahead hfree hms ih
    obtain rfl : spelled gap' ms = rest := by simpa using hahead
    have hfree' : Target.optionalField.Free behind gap
        (w ++ ("?:".toList ++ (z ++ spelled gap' ms))) := by
      simpa using hfree
    -- a match begins with a whole name, for it would have begun earlier otherwise
    have hfull := getLast?_any_of_free hword hbehind hfree'
    have hnext : (behind ++ gap ++ (w ++ ("?:".toList ++ z))).getLast?.any isWord = false := by
      rw [← List.append_assoc, List.getLast?_append_of_ne_nil _ (by simp)]
      exact isWord_eq_false_of_mem_mark hmark _ (List.getLast_mem _)
    obtain ⟨fields, hnames, hspelled, hrendered, hlength, hplaces⟩ := ih hnext
    have hmark' : Target.OptionalMark z (layOut written gap' fields) := hspelled ▸ hmark
    let f : OptionalField := ⟨w, z, hw, hword⟩
    have hwritten : spelled gap ((⟨[], w, "?:".toList ++ z⟩, gap') :: ms) =
        gap ++ (f.written ++ layOut written gap' fields) := by
      rw [spelled_cons, htext, hspelled]
      rfl
    refine ⟨(f, gap') :: fields, .next hfull hmark' hnames, ?_, ?_, ?_, ?_⟩
    · rw [hwritten, layOut_cons]
    · rw [Substitution.rendered_cons, layOut_cons, hrendered]
      rfl
    · rw [List.length_cons, List.length_cons, hlength]
    · have hfreeField : Target.optionalField.Free behind gap
          (f.written ++ layOut written gap' fields) := hspelled ▸ hfree
      rw [hwritten, places_append_of_free hfreeField, places_written f hmark', ← hspelled, hplaces,
        List.length_cons]

end OptionalField

/-- A text consists of optional fields, each with its full name, and of what stands between them.
The rule makes Haxe's field of each and leaves the rest as it is; what it counts are the places
where a name ends. -/
theorem Rule.optionalField_rewrites_fields (text : List Char) :
    ∃ gap fields, OptionalField.FullNames [] gap fields ∧
      text = OptionalField.layOut OptionalField.written gap fields ∧
      optionalField.apply text =
        ⟨OptionalField.layOut OptionalField.inHaxe gap fields, places endsName text⟩ ∧
      fields.length = places endsName text := by
  obtain ⟨gap, ms, rfl, h⟩ := Target.exists_factors (t := Target.optionalField) (by decide) [] text
  obtain ⟨fields, hnames, hspelled, hrendered, hlength, hplaces⟩ :=
    OptionalField.exists_of_factors h rfl
  refine ⟨gap, fields, hnames, hspelled, ?_, hplaces.symm⟩
  rw [apply_of_singleton (r := optionalField)
    (s := ⟨Target.optionalField, .template "?" " /* opt */ :"⟩) rfl,
    Substitution.apply_eq_of_factors (by decide) h, hrendered, hplaces, hlength]

example : Rule.optionalField.apply "a?:\n ?bc?: d".toList =
    ⟨"?a /* opt */ :?bc /* opt */ : d".toList, 2⟩ := by
  decide

end HaxeTypedefs
