/-
Texts without a text of a pattern, and what keeps them so.

`Pattern.Absent` says that no part of a text could be read by a pattern, wherever
it stands.  Two such texts put together are such a text again if the pattern never
brings the characters at the seam together, or has no use for those on one side.
A text that can stand between any two of them is said to shield.

* **`Pattern.absent_append`** — nothing comes up at a seam that the pattern does not join;
* **`Pattern.shields_of_cuts`** — a text that shields, seen from the text alone;
* **`Substitution.absent_apply`**, **`Substitution.absent_apply_of_free`** — a substitution keeps a
  pattern absent, or leaves it absent, if every single replacement does.
-/
import Mathlib.Data.List.Induction
import HaxeTypedefs.Proofs.LeftmostFirst

namespace HaxeTypedefs

namespace Pattern

variable {p : Pattern} {w x y : List Char}

/-- No part of the text is a text of the pattern. -/
def Absent (p : Pattern) (text : List Char) : Prop :=
  ∀ s r u, p.Reads s r u → ¬ r.text <:+: text

theorem Absent.of_infix (h : p.Absent y) (hxy : x <:+: y) : p.Absent x :=
  fun s r u hr hx => h s r u hr (hx.trans hxy)

/-- A text that lacks something the pattern needs. -/
theorem absent_of_needs (hw : w ∈ p.needs) (h : ¬ w <:+: x) : p.Absent x :=
  fun _ _ _ hr hx => h ((hr.infix_of_mem_needs hw).trans hx)

/-- The pattern never brings the end of the first text and the start of the second together. -/
def Apart (p : Pattern) (x y : List Char) : Prop :=
  ∀ c ∈ x.getLast?, ∀ d ∈ y.head?, p.joins c d = false

instance (p : Pattern) (x y : List Char) : Decidable (p.Apart x y) :=
  inferInstanceAs (Decidable (∀ c ∈ x.getLast?, ∀ d ∈ y.head?, p.joins c d = false))

theorem absent_append (hx : p.Absent x) (hy : p.Absent y) (h : p.Apart x y) :
    p.Absent (x ++ y) := by
  intro s r u hr hpart
  rcases List.infix_append_iff_ne_nil.mp hpart with h' | h' | ⟨w, w', hw, hw', hrw, hwx, hwy⟩
  · exact hx s r u hr h'
  · exact hy s r u hr h'
  · have hlast : x.getLast? = some (w.getLast hw) := by
      obtain ⟨x', rfl⟩ := hwx
      rw [List.getLast?_append_of_ne_nil _ hw, List.getLast?_eq_some_getLast hw]
    have hhead : y.head? = some (w'.head hw') := by
      obtain ⟨y', rfl⟩ := hwy
      rw [List.head?_append_of_ne_nil _ hw', List.head?_eq_some_head hw']
    have hpair : [w.getLast hw, w'.head hw'] <:+: r.text := by
      rw [hrw, pair_infix_append_iff, List.getLast?_eq_some_getLast hw,
        List.head?_eq_some_head hw']
      exact .inr (.inr ⟨rfl, rfl⟩)
    have hjoins := hr.joins_of_infix hpair
    rw [h _ hlast _ hhead] at hjoins
    cases hjoins

/-- Characters that no text of the pattern begins with may stand before. -/
theorem absent_append_of_begins (hp : 0 < p.shortest) (hx : ∀ c ∈ x, p.begins c = false)
    (hy : p.Absent y) : p.Absent (x ++ y) := by
  induction x with
  | nil => exact hy
  | cons c x ih =>
    intro s r u hr hpart
    rcases List.infix_cons_iff.mp hpart with hprefix | hpart
    · have hne : r.text ≠ [] := List.ne_nil_of_length_pos (Nat.lt_of_lt_of_le hp hr.shortest_le)
      obtain ⟨rest, hrest⟩ := hprefix
      have hhead : r.text.head? = some c := by
        rw [← List.head?_append_of_ne_nil r.text hne, hrest]
        rfl
      have hbegins := hr.begins_of_head? hhead
      rw [hx c List.mem_cons_self] at hbegins
      cases hbegins
    · exact ih (fun d hd => hx d (List.mem_cons_of_mem _ hd)) s r u hr hpart

/-- Characters that no text of the pattern ends with may stand behind. -/
theorem absent_append_of_finishes (hp : 0 < p.shortest) (hx : p.Absent x)
    (hy : ∀ c ∈ y, p.finishes c = false) : p.Absent (x ++ y) := by
  induction y using List.reverseRecOn with
  | nil => simpa using hx
  | append_singleton y c ih =>
    intro s r u hr hpart
    rw [← List.append_assoc, List.infix_concat_iff] at hpart
    rcases hpart with hsuffix | hpart
    · have hne : r.text ≠ [] := List.ne_nil_of_length_pos (Nat.lt_of_lt_of_le hp hr.shortest_le)
      obtain ⟨rest, hrest⟩ := hsuffix
      have hlast : r.text.getLast? = some c := by
        rw [← List.getLast?_append_of_ne_nil rest hne, hrest, List.getLast?_concat]
      have hfinishes := hr.finishes_of_getLast? hlast
      rw [hy c (by simp)] at hfinishes
      cases hfinishes
    · exact ih (fun d hd => hy d (List.mem_append_left _ hd)) s r u hr hpart

theorem absent_nil (hp : 0 < p.shortest) : p.Absent [] := by
  intro s r u hr hpart
  have := hr.shortest_le
  rw [List.infix_nil.mp hpart] at this
  exact absurd this (Nat.not_le.mpr hp)

/-- Between two texts without the pattern this one can stand. -/
def Shields (p : Pattern) (w : List Char) : Prop :=
  ∀ x y, p.Absent x → p.Absent y → p.Absent (x ++ w ++ y)

/-- A text shields if its first part can stand behind anything, its last part can stand before
anything, and the cuts are where the pattern joins nothing. -/
theorem shields_of_cuts {first middle last : List Char} (hp : 0 < p.shortest)
    (hfirst : ∀ c ∈ first, p.finishes c = false) (hlast : ∀ c ∈ last, p.begins c = false)
    (hmiddle : p.Absent middle) (hne : first ≠ [] ∧ last ≠ [])
    (hcut : p.Apart first (middle ++ last) ∧ p.Apart middle last) :
    p.Shields (first ++ middle ++ last) := by
  intro x y hx hy
  obtain ⟨hfne, hlne⟩ := hne
  have hright : p.Absent (middle ++ (last ++ y)) := by
    refine absent_append hmiddle (absent_append_of_begins hp hlast hy) ?_
    intro c hc d hd
    rw [List.head?_append_of_ne_nil _ hlne] at hd
    exact hcut.2 c hc d hd
  have hleft : p.Absent (x ++ first) := absent_append_of_finishes hp hx hfirst
  have hseam : p.Apart (x ++ first) (middle ++ (last ++ y)) := by
    intro c hc d hd
    rw [List.getLast?_append_of_ne_nil _ hfne] at hc
    rw [← List.append_assoc, List.head?_append_of_ne_nil _ (by simp [hlne])] at hd
    exact hcut.1 c hc d hd
  have := absent_append hleft hright hseam
  simpa using this

/-- The three parts of a text that shields, as far as they can be told from the pattern. -/
def Cuts (p : Pattern) (first middle last : List Char) : Prop :=
  0 < p.shortest ∧ (∀ c ∈ first, p.finishes c = false) ∧ (∀ c ∈ last, p.begins c = false) ∧
    (∃ w ∈ p.needs, ¬ w <:+: middle) ∧ (first ≠ [] ∧ last ≠ []) ∧
      p.Apart first (middle ++ last) ∧ p.Apart middle last

instance (p : Pattern) (first middle last : List Char) : Decidable (p.Cuts first middle last) :=
  inferInstanceAs (Decidable (0 < p.shortest ∧ (∀ c ∈ first, p.finishes c = false) ∧
    (∀ c ∈ last, p.begins c = false) ∧ (∃ w ∈ p.needs, ¬ w <:+: middle) ∧
      (first ≠ [] ∧ last ≠ []) ∧ p.Apart first (middle ++ last) ∧ p.Apart middle last))

theorem Cuts.shields {first middle last : List Char} (h : p.Cuts first middle last)
    (heq : w = first ++ middle ++ last) : p.Shields w := by
  obtain ⟨hp, hfirst, hlast, ⟨v, hv, hmiddle⟩, hne, hcut⟩ := h
  rw [heq]
  exact shields_of_cuts hp hfirst hlast (absent_of_needs hv hmiddle) hne hcut

/-- A text that begins with a character which the pattern never brings behind another one, and has
none that a text of the pattern begins with, shields. -/
theorem shields_of_begins (hp : 0 < p.shortest) (hw : ∀ c ∈ w, p.begins c = false) (hne : w ≠ [])
    (hhead : ∀ c, p.Apart [c] w) : p.Shields w := by
  intro x y hx hy
  rw [List.append_assoc]
  refine absent_append hx (absent_append_of_begins hp hw hy) ?_
  intro c _ d hd
  rw [List.head?_append_of_ne_nil _ hne] at hd
  exact hhead c c rfl d hd

theorem Shields.absent_between {first last : List Char} (hfirst : p.Shields first)
    (hlast : p.Shields last) (hx : p.Absent x) (hw : p.Absent w) (hy : p.Absent y) :
    p.Absent (x ++ (first ++ w ++ last) ++ y) := by
  have := hlast (x ++ first ++ w) y (hfirst x w hx hw) hy
  simpa using this

end Pattern

/-! ### Substitutions -/

namespace Substitution

variable {s : Substitution} {p : Pattern} {edge : List Char}

/-- The text to the left ends with a line feed, if it is not empty, where the match needs the start
of a line. -/
def Fits (l : List Char) (place : Place) : Prop :=
  place.atLineStart = true → ∀ c ∈ l.getLast?, c = '\n'

theorem fits_append (hedge : ∀ c ∈ edge, c = '\n') (x ahead : List Char) :
    Fits (edge ++ x) (.between x ahead) := by
  intro hs c hc
  cases hx : x.getLast? with
  | none =>
    rw [List.getLast?_eq_none_iff.mp hx, List.append_nil] at hc
    exact hedge c (List.mem_of_getLast? hc)
  | some d =>
    have hd : d = '\n' := by simpa [Place.between, Place.atLineStart, hx] using hs
    rw [List.getLast?_append, hx] at hc
    exact (Option.some.inj hc).symm.trans hd

/-- A substitution keeps a pattern absent if every single replacement does.  The text may have line
feeds before it that are not searched. -/
theorem absent_apply (hs : s.target.Solid) (hedge : ∀ c ∈ edge, c = '\n')
    (hput : ∀ place m l y, s.target.Chooses place m → Fits l place → p.Absent (l ++ m.text ++ y) →
      p.Absent (l ++ s.replacement.render m ++ y))
    {text : List Char} (ht : p.Absent (edge ++ text)) : p.Absent (edge ++ (s.apply text).text) := by
  -- the last match is replaced first, so that what lies to the left is the text as it was searched
  have hall : ∀ {behind gap ms}, s.target.Factors behind gap ms →
      p.Absent (edge ++ behind ++ spelled gap ms) → p.Absent (edge ++ behind ++ s.rendered gap ms) := by
    intro behind gap ms h
    induction h with
    | last _ => simp [spelled, rendered]
    | @next behind gap gap' m ms _ _ hm _ ih =>
      intro habsent
      have hright : p.Absent ((edge ++ (behind ++ gap)) ++ m.text ++ s.rendered gap' ms) := by
        simpa using ih (by simpa [spelled] using habsent)
      have hdone := hput _ m _ _ hm (fits_append hedge _ _) hright
      simpa [rendered] using hdone
  obtain ⟨gap, ms, rfl, h⟩ := Target.exists_factors hs [] text
  rw [apply_eq_of_factors hs h]
  simpa using hall h (by simpa using ht)

/-- A substitution leaves a pattern absent if no gap has it and what is put in goes with everything
around. -/
theorem absent_apply_of_free (hs : s.target.Solid) (hedge : ∀ c ∈ edge, c = '\n')
    (hfree : ∀ behind gap ahead e, s.target.Free behind gap ahead →
      (e = [] ∨ e = edge ∧ behind = []) → p.Absent (e ++ gap))
    (hput : ∀ place m l y, s.target.Chooses place m → Fits l place → p.Absent l → p.Absent y →
      p.Absent (l ++ s.replacement.render m ++ y))
    (text : List Char) : p.Absent (edge ++ (s.apply text).text) := by
  -- the edge stands before the first gap only
  have hall : ∀ {behind gap ms}, s.target.Factors behind gap ms → ∀ e,
      (e = [] ∨ e = edge ∧ behind = []) → p.Absent (e ++ s.rendered gap ms) := by
    intro behind gap ms h
    induction h with
    | last h =>
      intro e he
      simpa [rendered] using hfree _ _ _ e h he
    | @next behind gap gap' m ms hgap _ hm _ ih =>
      intro e he
      have hleft := hfree _ _ _ e hgap he
      have hright : p.Absent (s.rendered gap' ms) := by simpa using ih [] (.inl rfl)
      have hfits : Fits (e ++ gap) (.between (behind ++ gap) (m.text ++ spelled gap' ms)) := by
        rcases he with rfl | ⟨rfl, rfl⟩
        · intro hline c hc
          refine @fits_append [] (by simp) (behind ++ gap) _ hline c ?_
          rw [List.nil_append, List.getLast?_append]
          rw [List.nil_append] at hc
          rw [hc]
          rfl
        · simpa using fits_append hedge gap _
      have hdone := hput _ m _ _ hm hfits hleft hright
      simpa [rendered] using hdone
  obtain ⟨gap, ms, rfl, h⟩ := Target.exists_factors hs [] text
  rw [apply_eq_of_factors hs h]
  exact hall h edge (.inr ⟨rfl, rfl⟩)

/-- What the replacement puts around the match, or in its place, shields. -/
def Shielded (p : Pattern) (s : Substitution) : Prop :=
  match s.replacement with
  | .literal text => p.Shields text.toList
  | .template opening closing => p.Shields opening.toList ∧
      (p.Shields closing.toList ∨ closing = "" ∧ s.target.trail = .nothing)
  | .supersede block => p.Shields "//  ".toList ∧ p.Shields (" \n".toList ++ block.toList)

theorem absent_apply_of_shielded (hs : s.target.Solid) (hedge : ∀ c ∈ edge, c = '\n')
    (h : s.Shielded p) {text : List Char} (ht : p.Absent (edge ++ text)) :
    p.Absent (edge ++ (s.apply text).text) := by
  refine absent_apply hs hedge (fun place m l y hm _ habsent => ?_) ht
  have hl : p.Absent l := habsent.of_infix ⟨[], m.text ++ y, by simp⟩
  have hy : p.Absent y := habsent.of_infix ⟨l ++ m.text, [], by simp⟩
  unfold Shielded at h
  cases hr : s.replacement with
  | literal text =>
    rw [hr] at h
    exact h l y hl hy
  | template opening closing =>
    rw [hr] at h
    obtain ⟨hopening, hclosing | ⟨rfl, htrail⟩⟩ := h
    · have hmarked : p.Absent m.marked :=
        habsent.of_infix ⟨l ++ m.lead, m.trail ++ y, by simp [Match.text]⟩
      exact hopening.absent_between hclosing hl hmarked hy
    · -- the marked part is followed by what follows the match
      obtain ⟨r, ⟨u, hread⟩, rfl, -⟩ := hm
      obtain ⟨r₁, t, -, r₂, h₂, rfl⟩ := Pattern.reads_seq_iff.mp hread
      obtain ⟨r₃, t', -, r₄, h₄, rfl⟩ := Pattern.reads_seq_iff.mp h₂
      rw [htrail] at h₄
      obtain ⟨rfl, -⟩ := Pattern.reads_nothing_iff.mp h₄
      have hmarked : p.Absent (r₃.text ++ y) :=
        habsent.of_infix ⟨l ++ r₁.text, [], by simp [Match.text, Reading.toMatch, Reading.text]⟩
      have := hopening l (r₃.text ++ y) hl hmarked
      simpa [Replacement.render, Reading.toMatch] using this
  | supersede block =>
    rw [hr] at h
    obtain ⟨hopening, hblock⟩ := h
    have hm : p.Absent m.text := habsent.of_infix ⟨l, y, by simp⟩
    have := hopening.absent_between hblock hl hm hy
    simpa [Replacement.render] using this

end Substitution

end HaxeTypedefs
