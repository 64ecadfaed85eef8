/-
Annotations with a primitive type, seen from the colon.

A match of `primitiveType` has one colon, in front, and nothing before the colon is
looked at.  So the searches for two of the types do not get in each other's way: what
begins with a colon cuts a text into stretches that are searched one apart from the
other, and the names that are put in are no annotations themselves.

* **`Target.matches_primitiveType_iff`** — an annotation, read from its colon on;
* **`Target.free_primitiveType_congr`** — what a stretch is followed by does not matter,
  as long as it begins with a colon;
* **`Substitution.free_primitiveType_rendered`** — replacing one type leaves none of its
  annotations, and brings none of another type.
-/
import HaxeTypedefs.Proofs.Gap
import HaxeTypedefs.Proofs.Seam

namespace HaxeTypedefs

/-- A word that can be looked for behind a colon. -/
def IsTypeName (p : String) : Prop :=
  p.toList ≠ [] ∧ ∀ c ∈ p.toList, isWord c = true

instance (p : String) : Decidable (IsTypeName p) :=
  inferInstanceAs (Decidable (p.toList ≠ [] ∧ ∀ c ∈ p.toList, isWord c = true))

/-- Nothing is there, or a colon comes first. -/
def AtColon (x : List Char) : Prop := ∀ c ∈ x.head?, c = ':'

/-- The replacement of an annotation: a colon, and behind it something that no annotation with the
name has there. -/
def ReplacesName (haxe name : String) : Prop :=
  haxe.toList.head? = some ':' ∧ ':' ∉ haxe.toList.tail ∧
    haxe.toList.tail.head?.any (fun c => !isBlank c && name.toList.head? != some c) = true

instance (haxe name : String) : Decidable (ReplacesName haxe name) :=
  inferInstanceAs (Decidable (haxe.toList.head? = some ':' ∧ ':' ∉ haxe.toList.tail ∧
    haxe.toList.tail.head?.any (fun c => !isBlank c && name.toList.head? != some c) = true))

theorem ReplacesName.exists_eq {haxe name : String} (h : ReplacesName haxe name) :
    ∃ c w, haxe.toList = ':' :: c :: w ∧ ':' ∉ c :: w ∧ isBlank c = false ∧
      name.toList.head? ≠ some c := by
  obtain ⟨hcolon, hnot, hfirst⟩ := h
  obtain ⟨x, hx⟩ := List.head?_eq_some_iff.mp hcolon
  rw [hx, List.tail_cons] at hfirst hnot
  obtain ⟨c, hc, hother⟩ := (Option.any_eq_true _ _).mp hfirst
  obtain ⟨w, rfl⟩ := List.head?_eq_some_iff.mp hc
  rw [Bool.and_eq_true, Bool.not_eq_true', bne_iff_ne] at hother
  exact ⟨c, w, hx, hnot, hother⟩

theorem ReplacesName.atColon {haxe name : String} (h : ReplacesName haxe name) (x : List Char) :
    AtColon (haxe.toList ++ x) := by
  obtain ⟨c, w, hput, -⟩ := h.exists_eq
  rw [hput]
  simp [AtColon]

namespace Target

variable {p q : String} {b : Option Char} {behind gap x ahead ahead' : List Char}

theorem matches_primitiveType_iff (hp : IsTypeName p) :
    (Rule.primitiveType p).Matches ⟨b, ahead⟩ ↔ ∃ bl rest,
      ahead = ':' :: (bl ++ (p.toList ++ rest)) ∧ (∀ c ∈ bl, isBlank c = true) ∧
        rest.head?.any isWord = false := by
  constructor
  · intro h
    obtain ⟨m, hm, -⟩ := exists_chooses (solid_primitiveType p) h
    obtain ⟨bl, rest, htext, hbl, hrest, -⟩ := (chooses_primitiveType_iff hp.1 hp.2).mp hm
    exact ⟨bl, rest, htext, hbl, hrest⟩
  · rintro ⟨bl, rest, htext, hbl, hrest⟩
    exact ((chooses_primitiveType_iff hp.1 hp.2).mpr ⟨bl, rest, htext, hbl, hrest, rfl⟩).matches

theorem colon_not_mem_blanks_name (hp : IsTypeName p) {bl : List Char}
    (hbl : ∀ c ∈ bl, isBlank c = true) : ':' ∉ bl ++ p.toList := by
  intro h
  rcases List.mem_append.mp h with h | h
  · exact absurd (hbl _ h) (by decide)
  · exact absurd (hp.2 _ h) (by decide)

/-- Behind the colon of an annotation comes white space or the name. -/
theorem not_matches_primitiveType_cons (hp : IsTypeName p) {c : Char} (hblank : isBlank c = false)
    (hname : p.toList.head? ≠ some c) :
    ¬ (Rule.primitiveType p).Matches ⟨b, ':' :: c :: ahead⟩ := by
  intro h
  obtain ⟨bl, rest, htext, hbl, -⟩ := (matches_primitiveType_iff hp).mp h
  have htail := (List.cons.inj htext).2
  cases bl with
  | nil =>
    refine hname ?_
    rw [← List.head?_append_of_ne_nil _ hp.1, ← List.nil_append (p.toList ++ rest), ← htail]
    rfl
  | cons d bl =>
    obtain ⟨rfl, -⟩ := List.cons.inj htail
    rw [hbl _ List.mem_cons_self] at hblank
    cases hblank

/-- The white space and the name of an annotation do not go on behind a colon. -/
theorem exists_of_annotation_append (hp : IsTypeName p) (hahead : AtColon ahead) {bl rest : List Char}
    (hbl : ∀ c ∈ bl, isBlank c = true) (h : x ++ ahead = bl ++ (p.toList ++ rest)) :
    ∃ z, x = bl ++ (p.toList ++ z) ∧ rest = z ++ ahead := by
  cases ahead with
  | nil => exact ⟨rest, by simpa using h, by simp⟩
  | cons d y =>
    obtain rfl : d = ':' := hahead d rfl
    have hsplit : x ++ ':' :: y = (bl ++ p.toList) ++ rest := by simpa using h
    obtain ⟨z, rfl, rfl⟩ := exists_of_append_eq_of_not_mem hsplit (colon_not_mem_blanks_name hp hbl)
    exact ⟨z, by simp, rfl⟩

/-- An annotation that begins in a stretch before a colon ends in it. -/
theorem matches_primitiveType_congr (hp : IsTypeName p) (hahead : AtColon ahead)
    (hahead' : AtColon ahead') {c : Char} (b b' : Option Char)
    (h : (Rule.primitiveType p).Matches ⟨b, c :: x ++ ahead⟩) :
    (Rule.primitiveType p).Matches ⟨b', c :: x ++ ahead'⟩ := by
  obtain ⟨bl, rest, htext, hbl, hrest⟩ := (matches_primitiveType_iff hp).mp h
  obtain ⟨rfl, htail⟩ := List.cons.inj htext
  obtain ⟨z, rfl, rfl⟩ := exists_of_annotation_append hp hahead hbl htail
  refine (matches_primitiveType_iff hp).mpr ⟨bl, z ++ ahead', by simp, hbl, ?_⟩
  cases z with
  | cons d z => exact hrest
  | nil =>
    cases ahead' with
    | nil => rfl
    | cons d y =>
      obtain rfl : d = ':' := hahead' d rfl
      rfl

theorem free_primitiveType_congr (hp : IsTypeName p) (hahead : AtColon ahead)
    (hahead' : AtColon ahead') (behind' : List Char)
    (h : (Rule.primitiveType p).Free behind gap ahead) :
    (Rule.primitiveType p).Free behind' gap ahead' := by
  intro x c y hgap hmatch
  exact h x c y hgap (matches_primitiveType_congr hp hahead' hahead _ _ hmatch)

/-- What is put in the place of an annotation is not one of the given type. -/
theorem free_primitiveType_of_replacesName (hp : IsTypeName p) {haxe : String}
    (h : ReplacesName haxe p) : (Rule.primitiveType p).Free behind haxe.toList ahead := by
  obtain ⟨c, w, hput, hcolon, hblank, hname⟩ := h.exists_eq
  rw [hput, ← List.singleton_append]
  refine free_append (free_singleton (not_matches_primitiveType_cons hp hblank hname)) ?_
  refine free_of_begins (solid_primitiveType p) fun d hd => ?_
  have hne : ':' ≠ d := by
    rintro rfl
    exact hcolon hd
  simpa [Rule.primitiveType, whole, plain, Pattern.inOrder, Pattern.begins, Pattern.shortest]
    using hne

end Target

namespace Substitution

/-- Puts Haxe's annotation in the place of each annotation with the primitive type. -/
def annotating (p haxe : String) : Substitution := ⟨Rule.primitiveType p, .literal haxe⟩

variable {p q haxe : String} {behind gap : List Char} {ms : List (Match × List Char)}

/-- Between what is put in, the text is searched as it was before. -/
theorem free_primitiveType_rendered (hp : IsTypeName p) (hq : IsTypeName q)
    (hput : ReplacesName haxe q) (h : (Rule.primitiveType p).Factors behind gap ms)
    (hfree : q = p ∨ (Rule.primitiveType q).Free behind (spelled gap ms) []) (behind' : List Char) :
    (Rule.primitiveType q).Free behind' ((annotating p haxe).rendered gap ms) [] := by
  -- what was searched for `q` before stays searched, since every gap ends at the colon of an annotation
  induction h generalizing behind' with
  | @last behind gap hgap =>
    have hgap' : (Rule.primitiveType q).Free behind gap [] := by
      rcases hfree with rfl | hfree
      · exact hgap
      · simpa [spelled] using hfree
    have hnil : AtColon [] := by simp [AtColon]
    have hfree' := Target.free_primitiveType_congr hq hnil hnil behind' hgap'
    simpa [rendered] using hfree'
  | @next behind gap gap' m ms hgap hne hm hms ih =>
    have hannotation : AtColon (m.text ++ spelled gap' ms) := by
      obtain ⟨bl, rest, htext, -⟩ := (Target.matches_primitiveType_iff hp).mp hm.matches
      rw [htext]
      simp [AtColon]
    have hliteral := hput.atColon ((annotating p haxe).rendered gap' ms)
    obtain ⟨hbefore, hbehind⟩ : (Rule.primitiveType q).Free behind gap (m.text ++ spelled gap' ms) ∧
        (q = p ∨ (Rule.primitiveType q).Free (behind ++ gap ++ m.text) (spelled gap' ms) []) := by
      rcases hfree with rfl | hfree
      · exact ⟨hgap, .inl rfl⟩
      · have hparts :
            (Rule.primitiveType q).Free behind (gap ++ (m.text ++ spelled gap' ms)) [] := by
          simpa [spelled] using hfree
        rw [Target.free_append_iff, Target.free_append_iff, List.append_nil] at hparts
        exact ⟨hparts.1, .inr hparts.2.2⟩
    -- the gap, then what is put in, then the text behind the annotation
    have hleft := Target.free_primitiveType_congr hq hannotation hliteral behind' hbefore
    have hmiddle : (Rule.primitiveType q).Free (behind' ++ gap) haxe.toList
        ((annotating p haxe).rendered gap' ms) :=
      Target.free_primitiveType_of_replacesName hq hput
    have hright := ih hbehind (behind' ++ gap ++ haxe.toList)
    have hall := Target.free_append (by simpa using hleft)
      (Target.free_append (by simpa using hmiddle) hright)
    simpa [annotating, rendered, Replacement.render] using hall

/-- Replacing the annotations with one type leaves none of them, and no others than there were. -/
theorem free_primitiveType_apply (hp : IsTypeName p) (hq : IsTypeName q)
    (hput : ReplacesName haxe q) {text : List Char}
    (hfree : q = p ∨ (Rule.primitiveType q).Free [] text []) :
    (Rule.primitiveType q).Free [] ((annotating p haxe).apply text).text [] := by
  obtain ⟨gap, ms, rfl, h⟩ := Target.exists_factors (Target.solid_primitiveType p) [] text
  rw [apply_eq_of_factors (s := annotating p haxe) (Target.solid_primitiveType p) h]
  exact free_primitiveType_rendered hp hq hput h hfree []

/-- Of several types that are replaced one after the other, in whatever order, none is left. -/
theorem free_primitiveType_applyAll (hq : IsTypeName q) {names : List (String × String)}
    (hnames : ∀ n ∈ names, IsTypeName n.1 ∧ ReplacesName n.2 q) {text : List Char}
    (hfree : q ∈ names.map Prod.fst ∨ (Rule.primitiveType q).Free [] text []) :
    (Rule.primitiveType q).Free []
      (applyAll (names.map fun n => annotating n.1 n.2) text).text [] := by
  induction names generalizing text with
  | nil => exact hfree.resolve_left List.not_mem_nil
  | cons n names ih =>
    obtain ⟨hn, hput⟩ := hnames n List.mem_cons_self
    -- a type that has been replaced does not come back with the ones that follow
    refine ih (fun n hn => hnames n (List.mem_cons_of_mem _ hn)) ?_
    rcases hfree with hmem | hfree
    · rcases List.mem_cons.mp hmem with rfl | hmem
      · exact .inr (free_primitiveType_apply hn hq hput (.inl rfl))
      · exact .inl hmem
    · exact .inr (free_primitiveType_apply hn hq hput (.inr hfree))

end Substitution

namespace Rule

/-- The primitive types with what is put in the place of their annotations. -/
def primitiveNames : List (String × String) :=
  [("boolean", ":Bool"), ("string", ":String"), ("number", ":Int /* number */")]

theorem isTypeName_of_mem : ∀ n ∈ primitiveNames, IsTypeName n.1 := by
  decide

theorem replacesName_of_mem :
    ∀ n ∈ primitiveNames, ∀ q ∈ primitiveNames, ReplacesName n.2 q.1 := by
  decide

end Rule

end HaxeTypedefs
