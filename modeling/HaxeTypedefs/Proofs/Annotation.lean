/-
Annotations replaced in one pass.

`primitives` goes over the text three times, once for each type, and a later pass sees what
the ones before have put in.  That makes no difference: what is put in begins with a colon
and has no annotation, and between one colon and the next the passes do not see each other.
So they do together what one pass does that looks for all types at once.

* **`annotated`** — the one pass;
* **`annotated_append`** — it may be cut in front of a colon;
* **`count_annotated`** — it counts the places where annotations begin;
* **`Substitution.applyAll_eq_annotated`** — passes for some types, one after the other, are
  one pass for all of them;
* **`Rule.primitives_eq_annotated`** — so `primitives` is one pass, whatever the order of its
  three.
-/
import Mathlib.Data.List.Find
import Mathlib.Data.List.Permutation
import HaxeTypedefs.Proofs.PrimitiveType

namespace HaxeTypedefs

/-- The text begins with a colon, and with the name behind optional white space. -/
def startsWithType (name : String) : List Char → Bool
  | [] => false
  | c :: rest =>
    let named := rest.dropWhile isBlank
    c == ':' && name.toList.isPrefixOf named && !(named.drop name.toList.length).head?.any isWord

/-- The type that the text begins with an annotation of, and what is put in its place. -/
def typeAhead? (names : List (String × String)) (text : List Char) : Option (String × String) :=
  names.find? fun n => startsWithType n.1 text

/-- Goes once through the text and replaces the annotations with any of the types. -/
def annotated (names : List (String × String)) : List Char → Outcome
  | [] => ⟨[], 0⟩
  | c :: rest =>
    match typeAhead? names (c :: rest) with
    | some n =>
      let next := annotated names ((rest.dropWhile isBlank).drop n.1.toList.length)
      ⟨n.2.toList ++ next.text, next.count + 1⟩
    | none =>
      let next := annotated names rest
      ⟨c :: next.text, next.count⟩
termination_by text => text.length
decreasing_by
  · have hle := (List.dropWhile_suffix (p := isBlank) (l := rest)).length_le
    simp only [List.length_drop, List.length_cons]
    omega
  · exact Nat.lt_succ_self _

variable {p q : String} {names names' : List (String × String)} {n : String × String}
  {x y text bl rest : List Char}

/-! ### Where an annotation begins -/

theorem startsWithType_iff (hp : IsTypeName p) : startsWithType p text = true ↔
    ∃ bl rest, text = ':' :: (bl ++ (p.toList ++ rest)) ∧ (∀ c ∈ bl, isBlank c = true) ∧
      rest.head?.any isWord = false := by
  cases text with
  | nil => simp [startsWithType]
  | cons c text =>
    obtain ⟨bl, named, rfl, hbl, hnamed⟩ := exists_span isBlank text
    simp only [startsWithType, dropWhile_append_of_span hbl hnamed]
    rw [Bool.and_eq_true, Bool.and_eq_true, beq_iff_eq, List.isPrefixOf_iff_prefix,
      Bool.not_eq_true']
    constructor
    · rintro ⟨⟨rfl, rest, rfl⟩, hrest⟩
      rw [List.drop_left] at hrest
      exact ⟨bl, rest, rfl, hbl, hrest⟩
    · rintro ⟨bl', rest, htext, hbl', hrest⟩
      obtain ⟨rfl, hsplit⟩ := List.cons.inj htext
      obtain ⟨rfl, rfl⟩ := span_unique hsplit hbl hbl' hnamed (head?_word_any_isBlank hp.1 hp.2)
      rw [List.drop_left]
      exact ⟨⟨rfl, List.prefix_append _ _⟩, hrest⟩

theorem startsWithType_iff_matches (hp : IsTypeName p) (b : Option Char) :
    startsWithType p text = true ↔ (Rule.primitiveType p).Matches ⟨b, text⟩ := by
  rw [startsWithType_iff hp, Target.matches_primitiveType_iff hp]

/-- Annotations with two types do not begin at one place. -/
theorem eq_of_startsWithType (hp : IsTypeName p) (hq : IsTypeName q)
    (h : startsWithType p text = true) (h' : startsWithType q text = true) : p = q := by
  obtain ⟨bl, rest, rfl, hbl, hrest⟩ := (startsWithType_iff hp).mp h
  obtain ⟨bl', rest', htext, hbl', hrest'⟩ := (startsWithType_iff hq).mp h'
  obtain ⟨-, hnamed⟩ := span_unique (List.cons.inj htext).2 hbl hbl'
    (head?_word_any_isBlank hp.1 hp.2) (head?_word_any_isBlank hq.1 hq.2)
  obtain ⟨hname, -⟩ := span_unique hnamed hp.2 hq.2 hrest hrest'
  exact String.toList_injective hname

theorem mem_and_startsWithType_of_some (h : typeAhead? names text = some n) :
    n ∈ names ∧ startsWithType n.1 text = true :=
  ⟨List.mem_of_find?_eq_some h, by simpa using List.find?_some h⟩

theorem typeAhead?_eq_none_of_ne_colon {c : Char} (hc : c ≠ ':') (text : List Char) :
    typeAhead? names (c :: text) = none := by
  rw [typeAhead?, List.find?_eq_none]
  intro n _
  simp [startsWithType, hc]

theorem typeAhead?_append (hnames : ∀ n ∈ names, IsTypeName n.1) (hy : AtColon y) (c : Char)
    (x : List Char) : typeAhead? names (c :: x ++ y) = typeAhead? names (c :: x) := by
  refine List.find?_congr fun n hn => ?_
  have hnil : AtColon [] := by simp [AtColon]
  rw [Bool.eq_iff_iff, startsWithType_iff_matches (hnames n hn) none,
    startsWithType_iff_matches (hnames n hn) none]
  constructor
  · intro h
    simpa using Target.matches_primitiveType_congr (hnames n hn) hy hnil none none h
  · intro h
    exact Target.matches_primitiveType_congr (hnames n hn) hnil hy none none (by simpa using h)

/-- The order of the types does not matter. -/
theorem typeAhead?_perm (hnames : ∀ n ∈ names, IsTypeName n.1)
    (hdistinct : ∀ n ∈ names, ∀ n' ∈ names, n.1 = n'.1 → n = n') (h : names'.Perm names)
    (text : List Char) : typeAhead? names' text = typeAhead? names text := by
  cases hfound : typeAhead? names text with
  | none =>
    rw [typeAhead?, List.find?_eq_none] at hfound ⊢
    intro n hn
    exact hfound n (h.mem_iff.mp hn)
  | some n =>
    obtain ⟨hn, hstarts⟩ := mem_and_startsWithType_of_some hfound
    have hsome : (typeAhead? names' text).isSome = true :=
      List.find?_isSome.mpr ⟨n, h.mem_iff.mpr hn, hstarts⟩
    obtain ⟨n', hfound'⟩ := Option.isSome_iff_exists.mp hsome
    obtain ⟨hmem, hstarts'⟩ := mem_and_startsWithType_of_some hfound'
    have hn' := h.mem_iff.mp hmem
    have hname := eq_of_startsWithType (hnames n' hn') (hnames n hn) hstarts' hstarts
    rw [hfound', hdistinct n' hn' n hn hname]

/-! ### The pass, step by step -/

theorem annotated_cons_of_none {c : Char} (h : typeAhead? names (c :: text) = none) :
    annotated names (c :: text) =
      ⟨c :: (annotated names text).text, (annotated names text).count⟩ := by
  rw [annotated, h]

theorem annotated_of_some (hn : IsTypeName n.1) (hbl : ∀ c ∈ bl, isBlank c = true)
    (h : typeAhead? names (':' :: (bl ++ (n.1.toList ++ rest))) = some n) :
    annotated names (':' :: (bl ++ (n.1.toList ++ rest))) =
      ⟨n.2.toList ++ (annotated names rest).text, (annotated names rest).count + 1⟩ := by
  rw [annotated, h]
  simp only [dropWhile_append_of_span hbl (head?_word_any_isBlank hn.1 hn.2), List.drop_left]

/-- What the pass meets at a place: an annotation or a character that it leaves as it is. -/
theorem annotated_induction {P : List Char → Prop} (hnames : ∀ n ∈ names, IsTypeName n.1)
    (nil : P [])
    (keep : ∀ c text, typeAhead? names (c :: text) = none → P text → P (c :: text))
    (put : ∀ n ∈ names, ∀ bl rest, (∀ c ∈ bl, isBlank c = true) → rest.head?.any isWord = false →
      typeAhead? names (':' :: (bl ++ (n.1.toList ++ rest))) = some n → P rest →
        P (':' :: (bl ++ (n.1.toList ++ rest))))
    (text : List Char) : P text := by
  induction hlen : text.length using Nat.strongRecOn generalizing text with
  | ind k ih =>
    cases text with
    | nil => exact nil
    | cons c text =>
      cases hfound : typeAhead? names (c :: text) with
      | none => exact keep c text hfound (ih _ (by rw [← hlen]; exact Nat.lt_succ_self _) text rfl)
      | some n =>
        obtain ⟨hn, hstarts⟩ := mem_and_startsWithType_of_some hfound
        obtain ⟨bl, rest, htext, hbl, hrest⟩ := (startsWithType_iff (hnames n hn)).mp hstarts
        rw [htext] at hfound hlen ⊢
        refine put n hn bl rest hbl hrest hfound (ih _ ?_ rest rfl)
        rw [← hlen, List.length_cons, List.length_append, List.length_append]
        omega

/-- The pass may be cut in front of a colon. -/
theorem annotated_append (hnames : ∀ n ∈ names, IsTypeName n.1) (hy : AtColon y) (x : List Char) :
    annotated names (x ++ y) = ⟨(annotated names x).text ++ (annotated names y).text,
      (annotated names x).count + (annotated names y).count⟩ := by
  induction x using annotated_induction hnames with
  | nil => simp [annotated]
  | keep c x hnone ih =>
    have hnone' := (typeAhead?_append hnames hy c x).trans hnone
    rw [List.cons_append] at hnone' ⊢
    rw [annotated_cons_of_none hnone, annotated_cons_of_none hnone', ih]
    simp
  | put n hn bl rest hbl _ hsome ih =>
    have hsome' := (typeAhead?_append hnames hy _ _).trans hsome
    rw [List.cons_append, List.append_assoc, List.append_assoc] at hsome' ⊢
    rw [annotated_of_some (hnames n hn) hbl hsome, annotated_of_some (hnames n hn) hbl hsome', ih]
    simp [Nat.add_right_comm]

/-- The pass leaves a text as it is in which no annotation begins. -/
theorem annotated_append_of_forall
    (h : ∀ u c v, x = u ++ c :: v → typeAhead? names (c :: v ++ y) = none) :
    annotated names (x ++ y) = ⟨x ++ (annotated names y).text, (annotated names y).count⟩ := by
  induction x with
  | nil => rfl
  | cons c x ih =>
    have hhere := h [] c x rfl
    have hrest := ih fun u d v hx => h (c :: u) d v (by rw [hx, List.cons_append])
    rw [List.cons_append] at hhere ⊢
    rw [annotated_cons_of_none hhere, hrest, List.cons_append]

/-- Of the types only those matter that the text has annotations with. -/
theorem annotated_congr (hnames : ∀ n ∈ names, IsTypeName n.1)
    (h : ∀ v, v <:+ text → typeAhead? names' v = typeAhead? names v) :
    annotated names' text = annotated names text := by
  induction text using annotated_induction hnames with
  | nil => simp [annotated]
  | keep c text hnone ih =>
    have hrest := ih fun v hv => h v (hv.trans (List.suffix_cons c text))
    have hnone' := (h _ List.suffix_rfl).trans hnone
    rw [annotated_cons_of_none hnone, annotated_cons_of_none hnone', hrest]
  | put n hn bl rest hbl _ hsome ih =>
    have hsuffix : rest <:+ ':' :: (bl ++ (n.1.toList ++ rest)) :=
      ⟨':' :: (bl ++ n.1.toList), by simp⟩
    have hrest := ih fun v hv => h v (hv.trans hsuffix)
    have hsome' := (h _ List.suffix_rfl).trans hsome
    rw [annotated_of_some (hnames n hn) hbl hsome, annotated_of_some (hnames n hn) hbl hsome', hrest]

/-- An annotation begins only at its colon. -/
theorem count_annotated (hnames : ∀ n ∈ names, IsTypeName n.1) (text : List Char) :
    (annotated names text).count = places (fun v => (typeAhead? names v).isSome) text := by
  induction text using annotated_induction hnames with
  | nil => simp [annotated, places, typeAhead?, startsWithType]
  | keep c text hnone ih =>
    rw [annotated_cons_of_none hnone, places_cons, hnone, ih]
    simp
  | put n hn bl rest hbl _ hsome ih =>
    have hinside : places (fun v => (typeAhead? names v).isSome) (bl ++ (n.1.toList ++ rest)) =
        places (fun v => (typeAhead? names v).isSome) rest := by
      rw [← List.append_assoc]
      refine places_append_of_forall fun u c v hsplit => ?_
      have hne : c ≠ ':' := by
        rintro rfl
        refine Target.colon_not_mem_blanks_name (hnames n hn) hbl ?_
        rw [hsplit]
        exact List.mem_append_right _ List.mem_cons_self
      rw [List.cons_append, typeAhead?_eq_none_of_ne_colon hne]
      rfl
    rw [annotated_of_some (hnames n hn) hbl hsome, places_cons, hsome, hinside, ih, Nat.add_comm]
    rfl

/-! ### Passes one after the other -/

/-- In a stretch without annotations with a type, the pass may leave the type out. -/
theorem annotated_cons_of_free {haxe : String} {behind gap ahead : List Char} (hp : IsTypeName p)
    (hnames : ∀ n ∈ names, IsTypeName n.1) (hahead : AtColon ahead)
    (h : (Rule.primitiveType p).Free behind gap ahead) :
    annotated ((p, haxe) :: names) gap = annotated names gap := by
  have hnil : AtColon [] := by simp [AtColon]
  have hfree := Target.free_primitiveType_congr hp hahead hnil [] h
  refine annotated_congr hnames fun v hv => ?_
  obtain ⟨u, rfl⟩ := hv
  have hno : startsWithType p v = false := by
    cases v with
    | nil => rfl
    | cons c v =>
      have hnot := hfree u c v rfl
      rw [Place.between, ← startsWithType_iff_matches hp] at hnot
      simpa using hnot
  rw [typeAhead?, List.find?_cons_of_neg (by simp [hno]), typeAhead?]

/-- The pass leaves what is put in the place of an annotation as it is. -/
theorem annotated_append_of_replacesName {haxe : String}
    (hnames : ∀ n ∈ names, IsTypeName n.1 ∧ ReplacesName haxe n.1) (rest : List Char) :
    annotated names (haxe.toList ++ rest) =
      ⟨haxe.toList ++ (annotated names rest).text, (annotated names rest).count⟩ := by
  refine annotated_append_of_forall fun u c v hsplit => ?_
  rw [typeAhead?, List.find?_eq_none]
  intro n hn
  obtain ⟨hname, hput⟩ := hnames n hn
  have hfree : (Rule.primitiveType n.1).Free [] haxe.toList rest :=
    Target.free_primitiveType_of_replacesName hname hput
  have hnot := hfree u c v hsplit
  rwa [Place.between, ← startsWithType_iff_matches hname] at hnot

namespace Substitution

/-- What is put in for one type is left alone by the pass for the others. -/
theorem annotated_rendered {haxe : String} {behind gap : List Char} {ms : List (Match × List Char)}
    (hnames : ∀ n ∈ (p, haxe) :: names, IsTypeName n.1 ∧ ReplacesName haxe n.1)
    (h : (Rule.primitiveType p).Factors behind gap ms) :
    annotated ((p, haxe) :: names) (spelled gap ms) =
      ⟨(annotated names ((annotating p haxe).rendered gap ms)).text,
        ms.length + (annotated names ((annotating p haxe).rendered gap ms)).count⟩ := by
  have hall : ∀ n ∈ (p, haxe) :: names, IsTypeName n.1 := fun n hn => (hnames n hn).1
  obtain ⟨hp, hothers⟩ := List.forall_mem_cons.mp hall
  obtain ⟨⟨-, hput⟩, hputs⟩ := List.forall_mem_cons.mp hnames
  induction h with
  | @last behind gap hfree =>
    have hnil : AtColon [] := by simp [AtColon]
    rw [spelled, rendered, List.flatMap_nil, List.flatMap_nil, List.append_nil,
      annotated_cons_of_free hp hothers hnil hfree]
    simp
  | @next behind gap gap' m ms hfree hne hm hms ih =>
    obtain ⟨bl, rest, hahead, hbl, hrest, rfl⟩ := (Target.chooses_primitiveType_iff hp.1 hp.2).mp hm
    have htext : (⟨":".toList ++ (bl ++ p.toList), [], []⟩ : Match).text = ':' :: (bl ++ p.toList) := by
      simp [Match.text]
    rw [htext] at hahead hfree
    obtain rfl : spelled gap' ms = rest := by simpa using hahead
    have hsome : typeAhead? ((p, haxe) :: names) (':' :: (bl ++ (p.toList ++ spelled gap' ms))) =
        some (p, haxe) :=
      List.find?_cons_of_pos ((startsWithType_iff hp).mpr ⟨bl, _, rfl, hbl, hrest⟩)
    have hcolon : AtColon (':' :: (bl ++ (p.toList ++ spelled gap' ms))) := by simp [AtColon]
    have hspelled : spelled gap ((⟨":".toList ++ (bl ++ p.toList), [], []⟩, gap') :: ms) =
        gap ++ ':' :: (bl ++ (p.toList ++ spelled gap' ms)) := by
      rw [spelled_cons, htext, List.cons_append, List.append_assoc]
    have hrendered : (annotating p haxe).rendered gap
        ((⟨":".toList ++ (bl ++ p.toList), [], []⟩, gap') :: ms) =
          gap ++ (haxe.toList ++ (annotating p haxe).rendered gap' ms) := by
      rw [rendered_cons, annotating, Replacement.render_literal]
    -- both passes may be cut behind the gap
    rw [hspelled, hrendered, annotated_append hall hcolon, annotated_append hothers (hput.atColon _),
      annotated_cons_of_free hp hothers (by simp [AtColon]) hfree,
      annotated_of_some (n := (p, haxe)) hp hbl hsome, annotated_append_of_replacesName hputs, ih]
    simp only [List.length_cons, Outcome.mk.injEq, true_and]
    omega

/-- Passes for some types, one after the other, are one pass for all of them. -/
theorem applyAll_eq_annotated
    (hnames : ∀ n ∈ names, IsTypeName n.1 ∧ ∀ n' ∈ names, ReplacesName n.2 n'.1) (text : List Char) :
    applyAll (names.map fun n => annotating n.1 n.2) text = annotated names text := by
  induction names generalizing text with
  | nil =>
    have hnone : ∀ u c v, text = u ++ c :: v → typeAhead? [] (c :: v ++ []) = none :=
      fun _ _ _ _ => rfl
    have hkept := annotated_append_of_forall hnone
    rw [List.append_nil] at hkept
    simp [hkept, applyAll, annotated]
  | cons n names ih =>
    obtain ⟨gap, ms, rfl, h⟩ := Target.exists_factors (Target.solid_primitiveType n.1) [] text
    have hput := (hnames n List.mem_cons_self).2
    have hrest := ih fun n hn => ⟨(hnames n (List.mem_cons_of_mem _ hn)).1, fun n' hn' =>
      (hnames n (List.mem_cons_of_mem _ hn)).2 n' (List.mem_cons_of_mem _ hn')⟩
    have hfirst := apply_eq_of_factors (s := annotating n.1 n.2) (Target.solid_primitiveType n.1) h
    rw [List.map_cons, applyAll, hfirst, hrest,
      annotated_rendered (fun n' hn' => ⟨(hnames n' hn').1, hput n' hn'⟩) h]

end Substitution

namespace Rule

/-- The three passes of `primitives` are one that replaces the annotations with any of the types.
They may be made in any order, and what they count are the places where annotations begin. -/
theorem primitives_eq_annotated (text : List Char) :
    primitives.apply text = annotated primitiveNames text ∧
    (∀ ss, ss.Perm primitives.substitutions →
      Substitution.applyAll ss text = annotated primitiveNames text) ∧
    (primitives.apply text).count =
      places (fun v => (typeAhead? primitiveNames v).isSome) text := by
  have hperm : ∀ ss, ss.Perm primitives.substitutions →
      Substitution.applyAll ss text = annotated primitiveNames text := by
    intro ss hss
    -- a permutation of the substitutions comes from one of the names
    have hmem : ss ∈ (primitiveNames.map fun n => Substitution.annotating n.1 n.2).permutations :=
      List.mem_permutations.mpr hss
    rw [← List.map_permutations] at hmem
    obtain ⟨names, hnames, rfl⟩ := List.mem_map.mp hmem
    have horder := List.mem_permutations.mp hnames
    rw [Substitution.applyAll_eq_annotated fun n hn => ⟨isTypeName_of_mem n (horder.mem_iff.mp hn),
      fun n' hn' => replacesName_of_mem n (horder.mem_iff.mp hn) n' (horder.mem_iff.mp hn')⟩]
    exact annotated_congr isTypeName_of_mem fun v _ =>
      typeAhead?_perm isTypeName_of_mem (by decide) horder v
  have happly : primitives.apply text = annotated primitiveNames text := by
    rw [apply_eq_applyAll]
    exact hperm _ (List.Perm.refl _)
  refine ⟨happly, hperm, ?_⟩
  rw [happly, count_annotated isTypeName_of_mem]

theorem primitives_eq_annotated_of_reversed :
    Substitution.applyAll primitives.substitutions.reverse ": number:\n string:boolean".toList =
      ⟨":Int /* number */:String:Bool".toList, 3⟩ := by
  obtain ⟨happly, hperm, -⟩ := primitives_eq_annotated ": number:\n string:boolean".toList
  rw [hperm _ (List.reverse_perm _), ← happly]
  decide

end Rule

end HaxeTypedefs
