/-
Rules and the words of a text.

A match cuts a word in two if it begins or ends between two word characters.  The patterns
of `primitives` and `typeNodeUnion` look at the edges of the word next to them, those of
the other rules for one phrase do not: they replace the phrase inside of longer words too.

* **`Target.sparesWords_text_iff`** — a search for a fixed phrase cuts no word exactly if
  the phrase is nowhere part of a longer word;
* **`Rule.cutsNoWord_iff`** — the two rules with edges cut no word, and the four without
  cut one exactly where their phrase runs on into a longer word.
-/
import HaxeTypedefs.Proofs.PrimitiveType
import HaxeTypedefs.Proofs.TokenField

namespace HaxeTypedefs

variable {x y w : List Char}

/-- There is a word character on both sides. -/
def InsideWord (before behind : List Char) : Prop :=
  before.getLast?.any isWord = true ∧ behind.head?.any isWord = true

instance (before behind : List Char) : Decidable (InsideWord before behind) :=
  inferInstanceAs (Decidable (_ ∧ _))

/-- The text in the middle neither begins nor ends inside of a word. -/
def StandsWhole (before middle behind : List Char) : Prop :=
  ¬ InsideWord before (middle ++ behind) ∧ ¬ InsideWord (before ++ middle) behind

instance (before middle behind : List Char) : Decidable (StandsWhole before middle behind) :=
  inferInstanceAs (Decidable (_ ∧ _))

theorem not_insideWord_of_head? (h : y.head?.any isWord = false) : ¬ InsideWord x y := by
  rintro ⟨-, hy⟩
  rw [h] at hy
  cases hy

theorem InsideWord.append (h : InsideWord x y) (before behind : List Char) :
    InsideWord (before ++ x) (y ++ behind) := by
  obtain ⟨hx, hy⟩ := h
  obtain ⟨c, hc, hword⟩ := (Option.any_eq_true _ _).mp hx
  obtain ⟨d, hd, hword'⟩ := (Option.any_eq_true _ _).mp hy
  refine ⟨?_, ?_⟩
  · rw [List.getLast?_append, hc]
    exact hword
  · rw [List.head?_append, hd]
    exact hword'

/-- No match that the search finds cuts a word in two. -/
def Target.SparesWords (t : Target) (text : List Char) : Prop :=
  ∀ px m py, t.pieces text = px ++ .found m :: py → StandsWhole (textOf px) m.text (textOf py)

/-- None of the substitutions, made one after the other, replaces a match that cuts a word in
two. -/
def Substitution.AllSpareWords : List Substitution → List Char → Prop
  | [], _ => True
  | s :: ss, text => s.target.SparesWords text ∧ AllSpareWords ss (s.apply text).text

/-- The rule replaces no match that cuts a word in two. -/
def Rule.CutsNoWord (r : Rule) (text : List Char) : Prop :=
  Substitution.AllSpareWords r.substitutions text

theorem Substitution.allSpareWords_of_forall {ss : List Substitution}
    (h : ∀ s ∈ ss, ∀ text, s.target.SparesWords text) (text : List Char) :
    AllSpareWords ss text := by
  induction ss generalizing text with
  | nil => trivial
  | cons s ss ih =>
    exact ⟨h s List.mem_cons_self text, ih (fun s hs => h s (List.mem_cons_of_mem _ hs)) _⟩

theorem Rule.cutsNoWord_of_singleton {r : Rule} {s : Substitution} (h : r.substitutions = [s])
    (text : List Char) : r.CutsNoWord text ↔ s.target.SparesWords text := by
  rw [CutsNoWord, h, Substitution.AllSpareWords]
  exact and_iff_left trivial

namespace Target

/-! ### Targets with edges -/

theorem sparesWords_primitiveType {p : String} (hp : IsTypeName p) (text : List Char) :
    (Rule.primitiveType p).SparesWords text := by
  intro px m py h
  obtain ⟨bl, rest, hahead, -, hrest, rfl⟩ :=
    (chooses_primitiveType_iff hp.1 hp.2).mp (chooses_of_found h)
  obtain rfl : textOf py = rest := by simpa [Match.text] using hahead
  refine ⟨not_insideWord_of_head? ?_, not_insideWord_of_head? hrest⟩
  exact head?_any_append (by simp [Match.text]) (by simp [Match.text]; decide)

theorem sparesWords_typeNodeUnion (text : List Char) : typeNodeUnion.SparesWords text := by
  intro px m py h
  have hm := chooses_of_found h
  have htext : m.text = "NamedTypeNode | ListTypeNode".toList := text_of_chooses_typeNodeUnion hm
  obtain ⟨rest, hahead, hbefore, hrest⟩ := matches_typeNodeUnion_iff.mp hm.matches
  rw [htext] at hahead
  rw [← List.append_cancel_left hahead] at hrest
  refine ⟨?_, not_insideWord_of_head? hrest⟩
  rintro ⟨hx, -⟩
  rw [hbefore] at hx
  cases hx

/-! ### Fixed phrases -/

/-- Where the phrase could begin again before its end, the first one would end inside of a
word. -/
def OverlapsInWords (w : List Char) : Prop :=
  ∀ n < w.length, 0 < n → w.drop n <+: w → InsideWord w (w.drop (w.length - n))

instance (w : List Char) : Decidable (OverlapsInWords w) :=
  inferInstanceAs (Decidable (∀ n < w.length, 0 < n → w.drop n <+: w → _))

theorem OverlapsInWords.insideWord {u v z : List Char} (hw : OverlapsInWords w) (hu : u ≠ [])
    (hv : v ≠ []) (hbegin : w = v ++ z) (hend : w = u ++ v) : InsideWord w z := by
  have hulen := List.length_pos_iff.mpr hu
  have hvlen := List.length_pos_iff.mpr hv
  have hlen : w.length = u.length + v.length := by rw [hend, List.length_append]
  have hdrop : w.drop u.length = v := by rw [hend, List.drop_left]
  have hinside := hw u.length (by omega) hulen (by rw [hdrop, hbegin]; exact List.prefix_append v z)
  have hvlen' : w.length - u.length = v.length := by omega
  have hrest : w.drop v.length = z := by rw [hbegin, List.drop_left]
  rwa [hvlen', hrest] at hinside

/-- A search for a phrase cuts no word in two exactly if the phrase is nowhere part of a longer
word, also where it is not found since another one lies over it. -/
theorem sparesWords_text_iff (hne : w ≠ []) (hw : OverlapsInWords w) (text : List Char) :
    (plain (.text w)).SparesWords text ↔
      ∀ x y, text = x ++ (w ++ y) → StandsWhole x w y := by
  have htext : ∀ {px m py}, (plain (.text w)).pieces text = px ++ .found m :: py → m.text = w := by
    intro px m py h
    obtain ⟨rest, -, rfl⟩ := (chooses_text_iff hne).mp (chooses_of_found h)
    simp [Match.text]
  constructor
  · rintro h x y rfl
    have hm : (plain (.text w)).Chooses (.between x (w ++ y)) ⟨w, [], []⟩ :=
      (chooses_text_iff hne).mpr ⟨y, rfl, rfl⟩
    have hsolid : (plain (.text w)).Solid := by
      simpa [Solid, whole, plain, Pattern.shortest] using List.length_pos_iff.mpr hne
    obtain ⟨px, m, py, u, v, hpieces, rfl, hmtext, hv, hahead⟩ := exists_found hsolid hm.matches
    have hwhole := h px m py hpieces
    rw [htext hpieces] at hwhole hmtext
    -- the phrase is found here, or one that has begun before lies over it
    by_cases hu : u = []
    · subst hu
      rw [List.nil_append] at hmtext
      subst hmtext
      rw [List.append_nil, List.append_cancel_left hahead]
      exact hwhole
    · exfalso
      obtain ⟨z, hz⟩ : v <+: w :=
        List.prefix_of_prefix_length_le (hahead ▸ List.prefix_append v _)
          (List.prefix_append w y) (by rw [hmtext, List.length_append]; omega)
      have hrest : textOf py = z ++ y := by
        rw [← hz, List.append_assoc] at hahead
        exact (List.append_cancel_left hahead).symm
      rw [hrest] at hwhole
      exact hwhole.2 ((hw.insideWord hu hv hz.symm hmtext).append _ _)
  · intro h px m py hpieces
    have hsplit := eq_of_found hpieces
    rw [htext hpieces] at hsplit ⊢
    exact h _ _ hsplit

/-! ### Fields with a token -/

/-- The search for fields of type `Token | null` cuts no word in two exactly if none of the fields
runs on into a longer word. -/
theorem sparesWords_nullableToken_iff (text : List Char) : nullableToken.SparesWords text ↔
    ∀ (f : TokenField) x y, text = x ++ (f.written ++ y) → BeginsLine x →
      y.head?.any isWord = false := by
  have hlast : ∀ (f : TokenField) z, (z ++ f.written).getLast?.any isWord = true := by
    intro f z
    obtain ⟨w, hw⟩ := f.exists_written_eq
    rw [hw, ← List.append_assoc, List.getLast?_append]
    rfl
  constructor
  · rintro h f x y rfl hx
    -- the field need not be the one that is found, but both end at the same place
    obtain ⟨px, g, py, u, hpieces, -, rfl, -⟩ := TokenField.exists_found (f := f) (y := y) hx
    have hend := (h px _ py hpieces).2
    rw [TokenField.text_toMatch] at hend
    rw [Bool.eq_false_iff]
    exact fun hy => hend ⟨hlast g _, hy⟩
  · intro h px m py hpieces
    obtain ⟨hpx, f, rfl, hsplit⟩ := TokenField.of_found hpieces
    refine ⟨not_insideWord_of_head? ?_, not_insideWord_of_head? (h f _ _ hsplit hpx)⟩
    rw [TokenField.text_toMatch, TokenField.written, List.append_assoc]
    exact head?_any_append f.indent_ne_nil (head?_blank_any_isWord f.isBlank_of_mem_indent)

end Target

namespace Rule

/-- The phrase that the rule replaces wherever it stands. -/
def phrase? : Rule → Option String
  | exportType => some "export type"
  | optionalValue => some "value:String | void"
  | readOnlyArray => some "$ReadOnlyArray"
  | _ => none

theorem cutsNoWord_iff_of_phrase {r : Rule} {w : String} (hw : r.phrase? = some w)
    (text : List Char) : r.CutsNoWord text ↔
      ∀ x y, text = x ++ (w.toList ++ y) → StandsWhole x w.toList y := by
  have hsubst : ∃ p, r.substitutions = [⟨.plain (.text w.toList), p⟩] := by
    cases r <;> cases hw <;> exact ⟨_, rfl⟩
  have hphrase : w.toList ≠ [] ∧ Target.OverlapsInWords w.toList := by
    cases r <;> cases hw <;> decide
  obtain ⟨p, hp⟩ := hsubst
  rw [cutsNoWord_of_singleton hp]
  exact Target.sparesWords_text_iff hphrase.1 hphrase.2 text

/-- `primitives` and `typeNodeUnion` never cut a word in two.  A rule for a phrase does so exactly if
the phrase is part of a longer word, and `nullableToken` if one of its fields runs on into one. -/
theorem cutsNoWord_iff (text : List Char) :
    primitives.CutsNoWord text ∧ typeNodeUnion.CutsNoWord text ∧
      (∀ r ∈ [exportType, optionalValue, readOnlyArray], ∃ w, r.phrase? = some w ∧
        (r.CutsNoWord text ↔ ∀ x y, text = x ++ (w.toList ++ y) → StandsWhole x w.toList y)) ∧
      (nullableToken.CutsNoWord text ↔ ∀ (f : TokenField) x y, text = x ++ (f.written ++ y) →
        BeginsLine x → y.head?.any isWord = false) := by
  have hprimitives : ∀ s ∈ primitives.substitutions, ∀ text, s.target.SparesWords text := by
    simp only [substitutions, List.forall_mem_cons]
    exact ⟨Target.sparesWords_primitiveType (by decide),
      Target.sparesWords_primitiveType (by decide),
      Target.sparesWords_primitiveType (by decide), by simp⟩
  have hphrase : ∀ r ∈ [exportType, optionalValue, readOnlyArray], r.phrase?.isSome = true := by
    decide
  refine ⟨Substitution.allSpareWords_of_forall hprimitives text, ?_, fun r hr => ?_, ?_⟩
  · exact (cutsNoWord_of_singleton rfl text).mpr (Target.sparesWords_typeNodeUnion text)
  · obtain ⟨w, hw⟩ := Option.isSome_iff_exists.mp (hphrase r hr)
    exact ⟨w, hw, cutsNoWord_iff_of_phrase hw text⟩
  · exact (cutsNoWord_of_singleton rfl text).trans (Target.sparesWords_nullableToken_iff text)

/-- Each of the four rules without edges cuts a word. -/
theorem not_cutsNoWord :
    ¬ exportType.CutsNoWord "reexport types".toList ∧
      ¬ nullableToken.CutsNoWord "  prev: Token | nullable,".toList ∧
      ¬ optionalValue.CutsNoWord "  myvalue:String | void,".toList ∧
      ¬ readOnlyArray.CutsNoWord "  a: $ReadOnlyArrayLike<B>,".toList := by
  refine ⟨?_, ?_, ?_, ?_⟩
  · rw [cutsNoWord_iff_of_phrase rfl]
    exact fun h => absurd (h "re".toList "s".toList rfl) (by decide)
  · rw [cutsNoWord_of_singleton rfl]
    intro h
    have := h [] ⟨"  ".toList, "prev".toList, ": Token | null".toList⟩
      ("able,".toList.map .passed) (by decide)
    exact absurd this (by decide)
  · rw [cutsNoWord_iff_of_phrase rfl]
    exact fun h => absurd (h "  my".toList ",".toList rfl) (by decide)
  · rw [cutsNoWord_iff_of_phrase rfl]
    exact fun h => absurd (h "  a: ".toList "Like<B>,".toList rfl) (by decide)

end Rule

end HaxeTypedefs
