/-
Rules that only add to a text.

What some rules put in the place of a match is longer than the match.  Where only such
rules find something, no later replacement can undo an earlier one: the text that is left
in the end is the text that they begin with only if none of them finds anything in it.

* **`Substitution.grows_apply`** — a substitution that lengthens leaves a longer text, or has no match;
* **`Run.grows_textFrom`** — rules that add to a text leave it if each of them leaves it.
-/
import HaxeTypedefs.Proofs.Declaration
import HaxeTypedefs.Proofs.Gap
import HaxeTypedefs.Proofs.Matches
import HaxeTypedefs.Proofs.Seam

namespace HaxeTypedefs

theorem Grows.trans {x y z : List Char} (h : Grows x y) (h' : Grows y z) :
    Grows x z ∧ (x = z ↔ x = y ∧ y = z) := by
  have hle := h.length_le
  have hle' := h'.length_le
  by_cases heq : x = y ∧ y = z
  · obtain ⟨rfl, rfl⟩ := heq
    exact ⟨.inl rfl, by simp⟩
  · have hlt : x.length < z.length := by
      rcases h with rfl | h
      · have := h'.resolve_left fun h => heq ⟨rfl, h⟩
        omega
      · omega
    refine ⟨.inr hlt, fun h => ?_, fun h => absurd h heq⟩
    rw [h] at hlt
    exact absurd hlt (Nat.lt_irrefl _)

namespace Substitution

variable {s : Substitution}

/-- Every replacement is longer than its match. -/
def Lengthens (s : Substitution) : Prop :=
  ∀ place m, s.target.Chooses place m → m.text.length < (s.replacement.render m).length

theorem length_spelled_le (h : s.Lengthens) {behind gap : List Char} {ms : List (Match × List Char)}
    (hms : s.target.Factors behind gap ms) :
    (spelled gap ms).length + ms.length ≤ (s.rendered gap ms).length := by
  induction hms with
  | last _ => simp [spelled, rendered]
  | @next behind gap gap' m ms _ _ hm _ ih =>
    have hlt := h _ m hm
    simp only [spelled, rendered, List.flatMap_cons, List.length_append, List.length_cons] at ih ⊢
    omega

theorem grows_apply (hs : s.target.Solid) (h : s.Lengthens) (text : List Char) :
    Grows text (s.apply text).text ∧ (text = (s.apply text).text ↔ s.target.Free [] text []) := by
  obtain ⟨gap, ms, rfl, hms⟩ := Target.exists_factors hs [] text
  have hle := length_spelled_le h hms
  rw [apply_eq_of_factors hs hms]
  cases ms with
  | nil =>
    have hspelled : spelled gap [] = gap := by simp [spelled]
    have hrendered : s.rendered gap [] = gap := by simp [rendered]
    rw [hspelled, hrendered]
    cases hms with
    | last hfree => exact ⟨.inl rfl, fun _ => hfree, fun _ => rfl⟩
  | cons x ms =>
    have hlt : (spelled gap (x :: ms)).length < (s.rendered gap (x :: ms)).length := by
      rw [List.length_cons] at hle
      omega
    refine ⟨.inr hlt, fun heq => absurd (congrArg List.length heq) (Nat.ne_of_lt hlt),
      fun hfree => ?_⟩
    have happly := apply_of_free hs hfree
    rw [apply_eq_of_factors hs hms] at happly
    exact (congrArg Outcome.text happly).symm

end Substitution

namespace Rule

/-- The rules with one substitution that lengthens. -/
def lengthening : List Rule :=
  [typeNodeUnion, supersededTypeNode, importType, readOnlyArray, operationType]

theorem exists_lengthens {r : Rule} (hr : r ∈ lengthening) :
    ∃ s, r.substitutions = [s] ∧ s.Lengthens := by
  have hone : ∃ s, r.substitutions = [s] := by
    cases r <;> first | exact ⟨_, rfl⟩ | exact absurd hr (by decide)
  obtain ⟨s, hs⟩ := hone
  refine ⟨s, hs, fun place m hm => ?_⟩
  cases r <;> first
    | exact absurd hr (by decide)
    | obtain rfl := (List.cons.inj hs).1
  case typeNodeUnion =>
    rw [Target.text_of_chooses_typeNodeUnion hm]
    show "NamedTypeNode | ListTypeNode".toList.length <
      "TypeNode /* NamedTypeNode | ListTypeNode */".toList.length
    decide
  case supersededTypeNode =>
    obtain ⟨r, hr, rfl, -⟩ := hm
    obtain ⟨g, w, rest, -, -, -, -, rfl⟩ := Target.reads_supersededTypeNode_iff.mp hr
    simp [Replacement.render, Reading.toMatch, Reading.text, Match.text]
  case importType =>
    obtain ⟨w, rest, -, -, -, -, rfl⟩ := Target.chooses_importType_iff.mp hm
    simp [Replacement.render, Match.text]
  case readOnlyArray =>
    obtain ⟨rest, -, rfl⟩ := (Target.chooses_text_iff (by decide)).mp hm
    show ("$ReadOnlyArray".toList ++ [] ++ []).length < "/* $ReadOnlyArray */Array".toList.length
    decide
  case operationType =>
    simp only [Replacement.render, List.length_append]
    have hslashes : "//  ".toList.length = 4 := rfl
    omega

theorem grows_apply {r : Rule} (hr : r ∈ lengthening) (text : List Char) :
    Grows text (r.apply text).text := by
  obtain ⟨s, hs, hlong⟩ := exists_lengthens hr
  have hsolid : s.target.Solid := solid_of_mem (r := r) (by rw [hs]; exact List.mem_singleton_self s)
  rw [apply_of_singleton hs]
  exact (Substitution.grows_apply hsolid hlong text).1

theorem eq_apply_iff_free {r : Rule} {s : Substitution} (hr : r ∈ lengthening)
    (hs : r.substitutions = [s]) {text : List Char} :
    text = (r.apply text).text ↔ s.target.Free [] text [] := by
  obtain ⟨s', hs', hlong⟩ := exists_lengthens hr
  obtain rfl : s = s' := (List.cons.inj (hs.symm.trans hs')).1
  have hsolid : s.target.Solid := solid_of_mem (r := r) (by rw [hs]; exact List.mem_singleton_self s)
  rw [apply_of_singleton hs]
  exact (Substitution.grows_apply hsolid hlong text).2

end Rule

namespace Run

/-- Rules that add to every text of a kind, and keep its kind, leave such a text if each of them
leaves it. -/
theorem grows_textFrom {P : List Char → Prop} {rules : List Rule}
    (h : ∀ r ∈ rules, ∀ text, P text → Grows text (r.apply text).text ∧ P (r.apply text).text)
    {text : List Char} (ht : P text) :
    Grows text (textFrom rules text) ∧ P (textFrom rules text) ∧
      (text = textFrom rules text ↔ ∀ r ∈ rules, text = (r.apply text).text) := by
  induction rules generalizing text with
  | nil => exact ⟨.inl rfl, ht, by simp [textFrom]⟩
  | cons r rules ih =>
    obtain ⟨hfirst, hkept⟩ := h r List.mem_cons_self text ht
    have hrules : ∀ r ∈ rules, ∀ text, P text →
        Grows text (r.apply text).text ∧ P (r.apply text).text :=
      fun r hr => h r (List.mem_cons_of_mem _ hr)
    obtain ⟨hrest, hlast, -⟩ := ih hrules hkept
    obtain ⟨hgrows, heq⟩ := hfirst.trans hrest
    rw [textFrom_cons, List.forall_mem_cons]
    refine ⟨hgrows, hlast, heq.trans (and_congr_right fun hsame => ?_)⟩
    rw [← hsame]
    exact (ih hrules ht).2.2

end Run

end HaxeTypedefs
