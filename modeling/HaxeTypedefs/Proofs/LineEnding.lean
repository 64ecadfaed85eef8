/-
Line feeds with a carriage return before them.

`crlf` puts a carriage return before every line feed of a text.  A target finds the
same matches in both texts, with carriage returns where they have line feeds; only a
match that goes to the end of its line takes the carriage return there with it.

* **`Target.Factors.crlf`** — the matches of a text and of its `crlf`;
* **`Rule.apply_crlf`**, **`Rule.apply_operationType_crlf`** — what a rule leaves of them;
* **`Run.of_crlf`** — the two runs, step by step.
-/
import HaxeTypedefs.Proofs.Line

namespace HaxeTypedefs

/-- The text with a carriage return before every line feed. -/
def crlf (text : List Char) : List Char :=
  text.flatMap fun c => if c = '\n' then ['\r', '\n'] else [c]

/-- The text without its carriage returns. -/
def withoutReturns (text : List Char) : List Char :=
  text.filter (· != '\r')

section

variable {c d : Char} {w x y rest text ahead : List Char}

theorem crlf_append (x y : List Char) : crlf (x ++ y) = crlf x ++ crlf y :=
  List.flatMap_append

theorem crlf_lineFeed (w : List Char) : crlf ('\n' :: w) = '\r' :: '\n' :: crlf w := rfl

theorem crlf_cons (hc : c ≠ '\n') (w : List Char) : crlf (c :: w) = c :: crlf w := by
  simp [crlf, hc]

theorem crlf_of_not_mem (h : '\n' ∉ w) : crlf w = w := by
  induction w with
  | nil => rfl
  | cons c w ih =>
    rw [List.mem_cons, not_or] at h
    rw [crlf_cons (Ne.symm h.1), ih h.2]

theorem mem_crlf (h : c ∈ crlf w) : c ∈ w ∨ c = '\r' := by
  obtain ⟨d, hd, hc⟩ := List.mem_flatMap.mp h
  split at hc
  · rename_i hdn
    rw [hdn] at hd
    rcases List.mem_cons.mp hc with rfl | hc
    · exact .inr rfl
    · exact .inl (List.mem_singleton.mp hc ▸ hd)
  · exact .inl (List.mem_singleton.mp hc ▸ hd)

theorem crlf_ne_nil (h : w ≠ []) : crlf w ≠ [] := by
  cases w with
  | nil => exact absurd rfl h
  | cons c w =>
    by_cases hc : c = '\n'
    · rw [hc, crlf_lineFeed]
      exact List.cons_ne_nil _ _
    · rw [crlf_cons hc]
      exact List.cons_ne_nil _ _

theorem getLast?_crlf (w : List Char) : (crlf w).getLast? = w.getLast? := by
  rcases List.eq_nil_or_concat w with rfl | ⟨w, c, rfl⟩
  · rfl
  · rw [List.concat_eq_append, crlf_append, List.getLast?_concat]
    by_cases hc : c = '\n'
    · rw [hc, show crlf ['\n'] = ['\r'] ++ ['\n'] from rfl, ← List.append_assoc,
        List.getLast?_concat]
    · rw [crlf_cons hc]
      exact List.getLast?_concat

theorem head?_crlf_any {p : Char → Bool} (hp : p '\r' = p '\n') (w : List Char) :
    (crlf w).head?.any p = w.head?.any p := by
  cases w with
  | nil => rfl
  | cons c w =>
    by_cases hc : c = '\n'
    · rw [hc, crlf_lineFeed]
      exact hp
    · rw [crlf_cons hc]
      rfl

theorem withoutReturns_append (x y : List Char) :
    withoutReturns (x ++ y) = withoutReturns x ++ withoutReturns y :=
  List.filter_append x y

theorem withoutReturns_of_not_mem (h : '\r' ∉ w) : withoutReturns w = w :=
  List.filter_eq_self.mpr (forall_bne_iff.mpr h)

theorem withoutReturns_crlf (h : '\r' ∉ w) : withoutReturns (crlf w) = w := by
  induction w with
  | nil => rfl
  | cons c w ih =>
    rw [List.mem_cons, not_or] at h
    by_cases hc : c = '\n'
    · rw [hc, crlf_lineFeed]
      exact congrArg ('\n' :: ·) (ih h.2)
    · have hcr : withoutReturns [c] = [c] := withoutReturns_of_not_mem (by simpa using h.1)
      rw [crlf_cons hc, ← List.singleton_append, withoutReturns_append, hcr, ih h.2,
        List.singleton_append]

/-- A place in the `crlf` of a text is a place of the text, or lies between a carriage return and its
line feed. -/
theorem crlf_eq_append_cons (h : crlf text = x ++ c :: y) :
    (∃ x' d y', text = x' ++ d :: y' ∧ x = crlf x' ∧ c :: y = crlf (d :: y')) ∨
      ∃ x' y', text = x' ++ '\n' :: y' ∧ x = crlf x' ++ ['\r'] ∧ c :: y = '\n' :: crlf y' := by
  induction text generalizing x with
  | nil =>
    rw [show crlf [] = [] from rfl] at h
    simp at h
  | cons e text ih =>
    cases x with
    | nil => exact .inl ⟨[], e, text, rfl, rfl, h.symm⟩
    | cons d x =>
      by_cases he : e = '\n'
      · rw [he, crlf_lineFeed] at h
        obtain ⟨rfl, htail⟩ := List.cons.inj h
        cases x with
        | nil => exact .inr ⟨[], text, by rw [he]; rfl, rfl, htail.symm⟩
        | cons d x =>
          obtain ⟨rfl, hrest⟩ := List.cons.inj htail
          rcases ih hrest with ⟨x', d, y', rfl, rfl, hy⟩ | ⟨x', y', rfl, rfl, hy⟩
          · exact .inl ⟨e :: x', d, y', rfl, by rw [he, crlf_lineFeed], hy⟩
          · exact .inr ⟨e :: x', y', rfl, by rw [he, crlf_lineFeed]; rfl, hy⟩
      · rw [crlf_cons he] at h
        obtain ⟨rfl, htail⟩ := List.cons.inj h
        rcases ih htail with ⟨x', d, y', rfl, rfl, hy⟩ | ⟨x', y', rfl, rfl, hy⟩
        · exact .inl ⟨e :: x', d, y', rfl, (crlf_cons he x').symm, hy⟩
        · exact .inr ⟨e :: x', y', rfl, by rw [crlf_cons he]; rfl, hy⟩

/-- A carriage return in the `crlf` of a text stands before a line feed. -/
theorem exists_of_crlf_eq_append_return (hr : '\r' ∉ text) (h : crlf text = x ++ '\r' :: y) :
    ∃ z, y = '\n' :: z := by
  rcases crlf_eq_append_cons h with ⟨x', e, y', rfl, -, hy⟩ | ⟨x', y', -, -, hy⟩
  · by_cases he : e = '\n'
    · rw [he, crlf_lineFeed] at hy
      exact ⟨_, (List.cons.inj hy).2⟩
    · rw [crlf_cons he] at hy
      refine absurd (List.mem_append_right _ ?_) hr
      rw [(List.cons.inj hy).1]
      exact List.mem_cons_self
  · exact absurd (List.cons.inj hy).1 (by decide)

/-- Something of a stretch is left without its carriage returns, if it does not end before a line
feed. -/
theorem withoutReturns_ne_nil (hr : '\r' ∉ text) (h : crlf text = x ++ (w ++ d :: y)) (hw : w ≠ [])
    (hd : d ≠ '\n') : withoutReturns w ≠ [] := by
  obtain ⟨w, c, rfl⟩ := List.eq_nil_or_concat w |>.resolve_left hw
  rw [List.concat_eq_append] at h ⊢
  have hc : c ≠ '\r' := by
    rintro rfl
    have hsplit : crlf text = (x ++ w) ++ '\r' :: d :: y := by simpa using h
    obtain ⟨z, hz⟩ := exists_of_crlf_eq_append_return hr hsplit
    exact hd (List.cons.inj hz).1
  have hlast : withoutReturns [c] = [c] := withoutReturns_of_not_mem (by simpa using Ne.symm hc)
  rw [withoutReturns_append, hlast]
  exact List.append_ne_nil_of_right_ne_nil _ (List.cons_ne_nil c [])

theorem head?_withoutReturns_any {p : Char → Bool} (hp : p '\r' = p '\n') (hr : '\r' ∉ text)
    (h : crlf text = x ++ y) : (withoutReturns y).head?.any p = y.head?.any p := by
  cases y with
  | nil => rfl
  | cons c y =>
    by_cases hc : c = '\r'
    · rw [hc] at h ⊢
      obtain ⟨z, rfl⟩ := exists_of_crlf_eq_append_return hr h
      exact hp.symm
    · have hhead : withoutReturns [c] = [c] := withoutReturns_of_not_mem (by simpa using Ne.symm hc)
      rw [← List.singleton_append, withoutReturns_append, hhead]
      rfl

end

/-! ### Matches -/

/-- The match with a carriage return before every line feed. -/
def Match.crlf (m : Match) : Match :=
  ⟨HaxeTypedefs.crlf m.lead, HaxeTypedefs.crlf m.marked, HaxeTypedefs.crlf m.trail⟩

theorem Match.text_crlf (m : Match) : m.crlf.text = HaxeTypedefs.crlf m.text := by
  simp [Match.crlf, Match.text, crlf_append]

namespace Target

/-- The target chooses the same match in a text and in its `crlf`, and none that begins between a
carriage return and its line feed. -/
structure KeepsLineEnds (t : Target) : Prop where
  chooses_crlf : ∀ {b ahead m}, '\r' ∉ ahead → t.Chooses ⟨b, ahead⟩ m →
    t.Chooses ⟨b, HaxeTypedefs.crlf ahead⟩ m.crlf
  matches_of_crlf : ∀ {b ahead}, '\r' ∉ ahead → t.Matches ⟨b, HaxeTypedefs.crlf ahead⟩ →
    t.Matches ⟨b, ahead⟩
  not_inside : ∀ rest, ¬ t.Matches ⟨some '\r', '\n' :: rest⟩

variable {t : Target} {behind gap ahead : List Char} {ms : List (Match × List Char)}

theorem between_crlf (behind ahead : List Char) :
    Place.between (crlf behind) ahead = ⟨behind.getLast?, ahead⟩ := by
  rw [Place.between, getLast?_crlf]

theorem Free.crlf (hk : t.KeepsLineEnds) (hr : '\r' ∉ gap ++ ahead)
    (h : t.Free behind gap ahead) :
    t.Free (HaxeTypedefs.crlf behind) (HaxeTypedefs.crlf gap) (HaxeTypedefs.crlf ahead) := by
  intro x c y hgap hmatch
  rcases crlf_eq_append_cons hgap with ⟨x', d, y', rfl, rfl, hy⟩ | ⟨x', y', rfl, rfl, hy⟩
  · rw [← crlf_append, between_crlf, hy, ← crlf_append] at hmatch
    refine h x' d y' rfl (hk.matches_of_crlf ?_ hmatch)
    simp only [List.mem_append, not_or] at hr ⊢
    exact ⟨hr.1.2, hr.2⟩
  · rw [hy, ← List.append_assoc, Place.between, List.getLast?_concat] at hmatch
    exact hk.not_inside _ hmatch

theorem spelled_crlf (gap : List Char) (ms : List (Match × List Char)) :
    spelled (HaxeTypedefs.crlf gap) (ms.map fun x => (x.1.crlf, HaxeTypedefs.crlf x.2)) =
      HaxeTypedefs.crlf (spelled gap ms) := by
  induction ms generalizing gap with
  | nil => simp [spelled]
  | cons x ms ih =>
    have hrest : (ms.map fun x => (x.1.crlf, HaxeTypedefs.crlf x.2)).flatMap (fun x => x.1.text ++ x.2) =
        HaxeTypedefs.crlf (ms.flatMap fun x => x.1.text ++ x.2) := ih []
    simp only [spelled, List.map_cons, List.flatMap_cons, crlf_append, Match.text_crlf, hrest]

/-- The `crlf` of a text has the matches of the text, with a carriage return before every line
feed. -/
theorem Factors.crlf (hk : t.KeepsLineEnds) (h : t.Factors behind gap ms)
    (hr : '\r' ∉ spelled gap ms) :
    t.Factors (HaxeTypedefs.crlf behind) (HaxeTypedefs.crlf gap)
      (ms.map fun x => (x.1.crlf, HaxeTypedefs.crlf x.2)) := by
  induction h with
  | last hfree =>
    exact .last (hfree.crlf hk (by simpa [spelled] using hr))
  | @next behind gap gap' m ms hfree hne hm _ ih =>
    rw [spelled_cons] at hr
    have hmatch : '\r' ∉ m.text ++ spelled gap' ms := fun h => hr (List.mem_append_right _ h)
    have hrest : '\r' ∉ spelled gap' ms := fun h => hmatch (List.mem_append_right _ h)
    have hahead : m.crlf.text ++ spelled (HaxeTypedefs.crlf gap')
        (ms.map fun x => (x.1.crlf, HaxeTypedefs.crlf x.2)) =
          HaxeTypedefs.crlf (m.text ++ spelled gap' ms) := by
      rw [spelled_crlf, Match.text_crlf, crlf_append]
    refine .next ?_ ?_ ?_ ?_
    · rw [hahead]
      exact hfree.crlf hk hr
    · rw [Match.text_crlf]
      exact crlf_ne_nil hne
    · rw [hahead, ← crlf_append, between_crlf]
      exact hk.chooses_crlf hmatch hm
    · rw [Match.text_crlf, ← crlf_append, ← crlf_append]
      exact ih hrest

end Target

theorem Substitution.rendered_crlf {s : Substitution}
    (hs : ∀ m, s.replacement.render m.crlf = crlf (s.replacement.render m)) (gap : List Char)
    (ms : List (Match × List Char)) :
    s.rendered (crlf gap) (ms.map fun x => (x.1.crlf, crlf x.2)) = crlf (s.rendered gap ms) := by
  induction ms generalizing gap with
  | nil => simp [rendered]
  | cons x ms ih =>
    have hrest : (ms.map fun x => (x.1.crlf, crlf x.2)).flatMap
        (fun x => s.replacement.render x.1 ++ x.2) =
          crlf (ms.flatMap fun x => s.replacement.render x.1 ++ x.2) := ih []
    simp only [rendered, List.map_cons, List.flatMap_cons, crlf_append, hs, hrest]

/-- What the replacement has of its own has no line feed, and it puts in no more of a match than its
marked part. -/
def Replacement.InLine : Replacement → Prop
  | literal text => '\n' ∉ text.toList
  | template opening closing => '\n' ∉ opening.toList ∧ '\n' ∉ closing.toList
  | supersede _ => False

theorem Replacement.InLine.render_crlf {r : Replacement} (h : r.InLine) (m : Match) :
    r.render m.crlf = crlf (r.render m) := by
  cases r with
  | literal text => exact (crlf_of_not_mem h).symm
  | template opening closing =>
    simp only [render, crlf_append, crlf_of_not_mem h.1, crlf_of_not_mem h.2]
    rfl
  | supersede block => exact h.elim

theorem Substitution.apply_crlf {s : Substitution} (hs : s.target.Solid)
    (hk : s.target.KeepsLineEnds) (hput : s.replacement.InLine) {text : List Char}
    (hr : '\r' ∉ text) : s.apply (crlf text) = ⟨crlf (s.apply text).text, (s.apply text).count⟩ := by
  obtain ⟨gap, ms, rfl, h⟩ := Target.exists_factors hs [] text
  have happly := apply_eq_of_factors hs (h.crlf hk hr)
  rw [Target.spelled_crlf, rendered_crlf hput.render_crlf, List.length_map] at happly
  rw [apply_eq_of_factors hs h, happly]

/-! ### The targets that do not go to the end of a line -/

namespace Target

open Pattern

variable {t : Target} {b : Option Char} {ahead : List Char} {m : Match}

/-- What is ahead up to the first line feed is all that such a target sees. -/
theorem keepsLineEnds_of_admits (ht : t.Solid) (hn : t.whole.admits '\n' = false)
    (hr : t.whole.admits '\r' = false) : t.KeepsLineEnds := by
  -- up to the first line feed the text and its `crlf` are the same
  have hsame : ∀ (b : Option Char) ahead, t.matchAt ⟨b, crlf ahead⟩ = t.matchAt ⟨b, ahead⟩ := by
    intro b ahead
    induction ahead using lines_induction with
    | last line hline => rw [crlf_of_not_mem hline]
    | next line rest hline _ =>
      rw [crlf_append, crlf_of_not_mem hline, crlf_lineFeed,
        matchAt_append_of_admits hr (by decide), matchAt_append_of_admits hn (by decide)]
  refine ⟨fun {b ahead m} _ hm => ?_, fun {b ahead} _ hm => ?_, fun rest => ?_⟩
  · obtain ⟨r, u, hrd, hrm, hreach⟩ := hm.exists_reads
    have hne := hm.text_ne_nil ht
    have hline : '\n' ∉ m.text := by
      intro hmem
      rw [hrd.admits_of_mem (hrm ▸ hmem)] at hn
      cases hn
    have hsome := matchAt_eq_some_iff.mpr ⟨hm, hne⟩
    rw [← hsame] at hsome
    simp only [Match.text, List.mem_append, not_or] at hline
    rw [Match.crlf, crlf_of_not_mem hline.1.1, crlf_of_not_mem hline.1.2, crlf_of_not_mem hline.2]
    exact (matchAt_eq_some_iff.mp hsome).1
  · by_contra hno
    have hnone := (matchAt_eq_none_iff ht).mpr hno
    rw [← hsame] at hnone
    exact (matchAt_eq_none_iff ht).mp hnone hm
  · have hnone := (matchAt_append_of_admits hn (by decide) (some '\r') [] rest).trans
      (matchAt_nil ht _)
    exact (matchAt_eq_none_iff ht).mp hnone

/-! ### The targets with white space -/

section

variable {w bl : List Char}

theorem blank_crlf (h : ∀ c ∈ bl, isBlank c = true) : ∀ c ∈ crlf bl, isBlank c = true := by
  intro c hc
  rcases mem_crlf hc with hc | rfl
  · exact h c hc
  · decide

theorem blank_withoutReturns (h : ∀ c ∈ bl, isBlank c = true) :
    ∀ c ∈ withoutReturns bl, isBlank c = true :=
  fun c hc => h c (List.mem_of_mem_filter hc)

theorem crlf_word (h : ∀ c ∈ w, isWord c = true) : crlf w = w := by
  refine crlf_of_not_mem fun hmem => ?_
  have := h _ hmem
  revert this
  decide

theorem withoutReturns_word (h : ∀ c ∈ w, isWord c = true) : withoutReturns w = w := by
  refine withoutReturns_of_not_mem fun hmem => ?_
  have := h _ hmem
  revert this
  decide

end

theorem keepsLineEnds_variance : variance.KeepsLineEnds := by
  have hplus : crlf "+".toList = "+".toList := crlf_of_not_mem (by decide)
  refine ⟨fun {b ahead m} hr hm => ?_, fun {b ahead} hr h => ?_,
    not_matches_of_behind (by decide) (by decide) (by decide)⟩
  · obtain ⟨bl, rest, rfl, hs, hne, hbl, rfl⟩ := chooses_variance_iff.mp hm
    refine chooses_variance_iff.mpr
      ⟨crlf bl, crlf rest, ?_, hs, crlf_ne_nil hne, blank_crlf hbl, ?_⟩
    · rw [crlf_append, crlf_append, hplus]
    · rw [Match.crlf, hplus]
      rfl
  · obtain ⟨m, hm, -⟩ := exists_chooses (by decide) h
    obtain ⟨bl, rest, heq, hs, hne, hbl, -⟩ := chooses_variance_iff.mp hm
    have hahead := congrArg withoutReturns heq
    rw [withoutReturns_crlf hr, withoutReturns_append, withoutReturns_append,
      withoutReturns_of_not_mem (show '\r' ∉ "+".toList by decide)] at hahead
    exact (chooses_variance_iff.mpr ⟨_, _, hahead, hs,
      withoutReturns_ne_nil (x := []) hr heq hne (by decide), blank_withoutReturns hbl, rfl⟩).matches

theorem OptionalMark.crlf {z rest : List Char} (hr : '\r' ∉ rest) (h : OptionalMark z rest) :
    OptionalMark (HaxeTypedefs.crlf z) (HaxeTypedefs.crlf rest) := by
  rcases h with ⟨bl, rfl, hne, hbl⟩ | ⟨rfl, hno⟩
  · exact .inl ⟨_, by rw [crlf_append, crlf_of_not_mem (show '\n' ∉ "?".toList by decide)],
      crlf_ne_nil hne, blank_crlf hbl⟩
  · refine .inr ⟨rfl, fun bl rest' heq hbl => ?_⟩
    by_contra hne
    have hrest := congrArg withoutReturns heq
    rw [withoutReturns_crlf hr, withoutReturns_append, withoutReturns_append,
      withoutReturns_of_not_mem (show '\r' ∉ "?".toList by decide)] at hrest
    exact withoutReturns_ne_nil (x := []) hr heq hne (by decide)
      (hno _ _ hrest (blank_withoutReturns hbl))

theorem keepsLineEnds_optionalField : optionalField.KeepsLineEnds := by
  have hcolon : crlf "?:".toList = "?:".toList := crlf_of_not_mem (by decide)
  refine ⟨fun {b ahead m} hr hm => ?_, fun {b ahead} hr h => ?_,
    not_matches_of_behind (by decide) (by decide) (by decide)⟩
  · obtain ⟨w, z, rest, rfl, hne, hw, hz, rfl⟩ := chooses_optionalField_iff.mp hm
    have hrest : '\r' ∉ rest := fun hmem => hr (by simp [hmem])
    refine chooses_optionalField_iff.mpr
      ⟨w, crlf z, crlf rest, ?_, hne, hw, hz.crlf hrest, ?_⟩
    · rw [crlf_append, crlf_append, crlf_append, crlf_word hw, hcolon]
    · rw [Match.crlf, crlf_word hw, crlf_append, hcolon]
      rfl
  · obtain ⟨r, hrd⟩ := h
    obtain ⟨w, z, rest, heq, hne, hw, -, -⟩ := reads_optionalField_iff.mp hrd
    have hahead := congrArg withoutReturns heq
    rw [withoutReturns_crlf hr, withoutReturns_append, withoutReturns_append, withoutReturns_word hw,
      withoutReturns_of_not_mem (show '\r' ∉ "?:".toList by decide)] at hahead
    exact ⟨_, reads_optionalField_iff.mpr ⟨w, .absent, _, hahead, hne, hw, .inl rfl, rfl⟩⟩

theorem keepsLineEnds_primitiveType {p : String} (hne : p.toList ≠ [])
    (hp : ∀ c ∈ p.toList, isWord c = true) : (Rule.primitiveType p).KeepsLineEnds := by
  have hcolon : crlf ":".toList = ":".toList := crlf_of_not_mem (by decide)
  have hword : isWord '\r' = isWord '\n' := by decide
  have hbegins : (Rule.primitiveType p).whole.begins '\n' = false := by
    simp [Rule.primitiveType, whole, plain, inOrder, begins, shortest]
  refine ⟨fun {b ahead m} hr hm => ?_, fun {b ahead} hr h => ?_,
    not_matches_of_behind (solid_primitiveType p) (by decide) (.inr hbegins)⟩
  · obtain ⟨bl, rest, rfl, hbl, hrest, rfl⟩ := (chooses_primitiveType_iff hne hp).mp hm
    refine (chooses_primitiveType_iff hne hp).mpr
      ⟨crlf bl, crlf rest, ?_, blank_crlf hbl, (head?_crlf_any hword rest).trans hrest, ?_⟩
    · rw [crlf_append, crlf_append, crlf_append, hcolon, crlf_word hp]
    · rw [Match.crlf, crlf_append, crlf_append, hcolon, crlf_word hp]
      rfl
  · obtain ⟨m, hm, -⟩ := exists_chooses (solid_primitiveType p) h
    obtain ⟨bl, rest, heq, hbl, hrest, -⟩ := (chooses_primitiveType_iff hne hp).mp hm
    have hahead := congrArg withoutReturns heq
    rw [withoutReturns_crlf hr, withoutReturns_append, withoutReturns_append, withoutReturns_append,
      withoutReturns_of_not_mem (show '\r' ∉ ":".toList by decide), withoutReturns_word hp] at hahead
    have hrest' := head?_withoutReturns_any hword hr (x := ":".toList ++ (bl ++ p.toList)) (y := rest)
      (by simpa using heq)
    exact ((chooses_primitiveType_iff hne hp).mpr
      ⟨_, _, hahead, blank_withoutReturns hbl, hrest'.trans hrest, rfl⟩).matches

theorem keepsLineEnds_multiLineUnion : multiLineUnion.KeepsLineEnds := by
  have hnode : crlf "Node =".toList = "Node =".toList := crlf_of_not_mem (by decide)
  have hbar : crlf "|".toList = "|".toList := crlf_of_not_mem (by decide)
  have hend : crlf ";".toList = ";".toList := crlf_of_not_mem (by decide)
  have hfeed : crlf "\n".toList = "\r".toList ++ "\n".toList := crlf_lineFeed []
  -- the carriage return goes to the white space before the line feed
  have hreturn : ∀ {bl : List Char}, (∀ c ∈ bl, isBlank c = true) →
      ∀ c ∈ crlf bl ++ "\r".toList, isBlank c = true := by
    intro bl hbl c hc
    rcases List.mem_append.mp hc with hc | hc
    · exact blank_crlf hbl c hc
    · rw [List.mem_singleton.mp hc]
      decide
  refine ⟨fun {b ahead m} hr hm => ?_, fun {b ahead} hr h => ?_,
    not_matches_of_behind (by decide) (by decide) (by decide)⟩
  · obtain ⟨bl, bl', w, rest, rfl, hbl, hne, hbl', hw, rfl⟩ := chooses_multiLineUnion_iff.mp hm
    have hw' : ';' ∉ crlf w := fun hmem => (mem_crlf hmem).elim hw (by decide)
    refine chooses_multiLineUnion_iff.mpr ⟨crlf bl ++ "\r".toList, crlf bl', crlf w, crlf rest, ?_,
      hreturn hbl, crlf_ne_nil hne, blank_crlf hbl', hw', ?_⟩
    · simp only [crlf_append, hnode, hbar, hend, hfeed, List.append_assoc]
    · simp only [Match.crlf, crlf_append, hnode, hbar, hend, hfeed, List.append_assoc]
      rfl
  · obtain ⟨r, hrd⟩ := h
    obtain ⟨bl, bl', w, rest, heq, hbl, hne, hbl', -⟩ := reads_multiLineUnion_iff.mp hrd
    have hahead := congrArg withoutReturns heq
    simp only [withoutReturns_crlf hr, withoutReturns_append,
      withoutReturns_of_not_mem (show '\r' ∉ "Node =".toList by decide),
      withoutReturns_of_not_mem (show '\r' ∉ "\n".toList by decide),
      withoutReturns_of_not_mem (show '\r' ∉ "|".toList by decide),
      withoutReturns_of_not_mem (show '\r' ∉ ";".toList by decide)] at hahead
    have hne' := withoutReturns_ne_nil (x := "Node =".toList ++ (bl ++ "\n".toList)) (w := bl')
      (d := '|') (y := w ++ (";".toList ++ rest)) hr (by simpa using heq) hne (by decide)
    exact ⟨_, reads_multiLineUnion_iff.mpr
      ⟨_, _, _, _, hahead, blank_withoutReturns hbl, hne', blank_withoutReturns hbl', rfl⟩⟩

theorem keepsLineEnds_singleLineUnion : singleLineUnion.KeepsLineEnds := by
  have hnode : crlf "Node = ".toList = "Node = ".toList := crlf_of_not_mem (by decide)
  have hbar : crlf "|".toList = "|".toList := crlf_of_not_mem (by decide)
  have hend : crlf ";".toList = ";".toList := crlf_of_not_mem (by decide)
  refine ⟨fun {b ahead m} hr hm => ?_, fun {b ahead} hr h => ?_,
    not_matches_of_behind (by decide) (by decide) (by decide)⟩
  · obtain ⟨v, bl, w, rest, rfl, hv, hword, hne, hbl, hline, hw, rfl⟩ :=
      chooses_singleLineUnion_iff.mp hm
    refine chooses_singleLineUnion_iff.mpr ⟨v, crlf bl, w, crlf rest, ?_, hv, hword,
      crlf_ne_nil hne, blank_crlf hbl, hline, hw, ?_⟩
    · simp only [crlf_append, hnode, hbar, hend, crlf_word hword, crlf_of_not_mem hline]
    · simp only [Match.crlf, crlf_append, hnode, hbar, hend, crlf_word hword, crlf_of_not_mem hline]
      rfl
  · obtain ⟨r, hrd⟩ := h
    obtain ⟨v, bl, w, rest, heq, hv, hword, hne, hbl, hline, -⟩ := reads_singleLineUnion_iff.mp hrd
    have hahead := congrArg withoutReturns heq
    simp only [withoutReturns_crlf hr, withoutReturns_append, withoutReturns_word hword,
      withoutReturns_of_not_mem (show '\r' ∉ "Node = ".toList by decide),
      withoutReturns_of_not_mem (show '\r' ∉ "|".toList by decide),
      withoutReturns_of_not_mem (show '\r' ∉ ";".toList by decide)] at hahead
    have hne' := withoutReturns_ne_nil (x := "Node = ".toList ++ v) (w := bl)
      (d := '|') (y := w ++ (";".toList ++ rest)) hr (by simpa using heq) hne (by decide)
    have hline' : '\n' ∉ withoutReturns w := fun hmem => hline (List.mem_of_mem_filter hmem)
    exact ⟨_, reads_singleLineUnion_iff.mpr
      ⟨v, _, _, _, hahead, hv, hword, hne', blank_withoutReturns hbl, hline', rfl⟩⟩

theorem keepsLineEnds_nullableToken : nullableToken.KeepsLineEnds := by
  have hcolon : crlf ":".toList = ":".toList := crlf_of_not_mem (by decide)
  have htoken : crlf "Token | null".toList = "Token | null".toList := crlf_of_not_mem (by decide)
  have hnames : ∀ {name : List Char}, name = "prev".toList ∨ name = "next".toList →
      crlf name = name ∧ withoutReturns name = name := by
    rintro name (rfl | rfl)
    · exact ⟨crlf_of_not_mem (by decide), withoutReturns_of_not_mem (by decide)⟩
    · exact ⟨crlf_of_not_mem (by decide), withoutReturns_of_not_mem (by decide)⟩
  refine ⟨fun {b ahead m} hr hm => ?_, fun {b ahead} hr h => ?_,
    not_matches_of_behind (by decide) (by decide) (by decide)⟩
  · obtain ⟨bl, name, bl', rest, rfl, hs, hne, hbl, hname, hbl', rfl⟩ :=
      chooses_nullableToken_iff.mp hm
    refine chooses_nullableToken_iff.mpr ⟨crlf bl, name, crlf bl', crlf rest, ?_, hs,
      crlf_ne_nil hne, blank_crlf hbl, hname, blank_crlf hbl', ?_⟩
    · simp only [crlf_append, (hnames hname).1, hcolon, htoken]
    · simp only [Match.crlf, crlf_append, (hnames hname).1, hcolon, htoken]
  · obtain ⟨m, hm, -⟩ := exists_chooses (by decide) h
    obtain ⟨bl, name, bl', rest, heq, hs, hne, hbl, hname, hbl', -⟩ :=
      chooses_nullableToken_iff.mp hm
    have hahead := congrArg withoutReturns heq
    simp only [withoutReturns_crlf hr, withoutReturns_append, (hnames hname).2,
      withoutReturns_of_not_mem (show '\r' ∉ ":".toList by decide),
      withoutReturns_of_not_mem (show '\r' ∉ "Token | null".toList by decide)] at hahead
    obtain ⟨c, y, hc, hcn⟩ : ∃ c y, name ++ (":".toList ++ (bl' ++ ("Token | null".toList ++ rest))) =
        c :: y ∧ c ≠ '\n' := by
      rcases hname with rfl | rfl
      · exact ⟨'p', _, rfl, by decide⟩
      · exact ⟨'n', _, rfl, by decide⟩
    have hne' := withoutReturns_ne_nil (x := []) hr (hc ▸ heq) hne hcn
    exact (chooses_nullableToken_iff.mpr ⟨_, name, _, _, hahead, hs, hne', blank_withoutReturns hbl,
      hname, blank_withoutReturns hbl', rfl⟩).matches

end Target

/-! ### Rules -/

instance : (r : Replacement) → Decidable r.InLine
  | .literal text => inferInstanceAs (Decidable ('\n' ∉ text.toList))
  | .template opening closing =>
    inferInstanceAs (Decidable ('\n' ∉ opening.toList ∧ '\n' ∉ closing.toList))
  | .supersede _ => inferInstanceAs (Decidable False)

/-- A typedef with a name on its line is one with a carriage return behind it, too. -/
theorem typedefWith_concat_iff {name line : List Char} (hne : name ≠ []) (hr : '\r' ∉ name) :
    TypedefWith name (line ++ ['\r']) ↔ TypedefWith name line := by
  constructor
  · rintro ⟨g, w, h⟩
    rcases List.eq_nil_or_concat w with rfl | ⟨w, c, rfl⟩
    · have hlast := congrArg List.getLast? h
      rw [List.getLast?_concat, List.append_nil, List.getLast?_append_of_ne_nil _ (by simp [hne]),
        List.getLast?_append_of_ne_nil _ hne] at hlast
      exact absurd (List.mem_of_getLast? hlast.symm) hr
    · rw [List.concat_eq_append, ← List.append_assoc, ← List.append_assoc, ← List.append_assoc] at h
      exact ⟨g, w, by simpa using (List.append_inj' h rfl).1⟩
  · rintro ⟨g, w, rfl⟩
    exact ⟨g, w ++ ['\r'], by simp⟩

namespace Rule

variable {r : Rule} {text line : List Char}

theorem apply_crlf_of_keepsLineEnds
    (h : ∀ s ∈ r.substitutions, s.target.KeepsLineEnds ∧ s.replacement.InLine ∧
      '\r' ∉ s.replacement.added) (hr : '\r' ∉ text) :
    r.apply (crlf text) = ⟨crlf (r.apply text).text, (r.apply text).count⟩ := by
  refine apply_induction (r := r) (P := fun f => ∀ {text : List Char}, '\r' ∉ text →
    f (crlf text) = ⟨crlf (f text).text, (f text).count⟩) (fun _ => rfl) ?_ hr
  intro s hs hsolid f ih text hr
  obtain ⟨hk, hput, hadded⟩ := h s hs
  have hnext : '\r' ∉ (s.apply text).text := fun hmem =>
    (Substitution.mem_apply hsolid hmem).elim hr hadded
  simp only [Substitution.apply_crlf hsolid hk hput hr, ih hnext]

/-- A rule that works line by line makes the same replacements, if it does so in each line with a
carriage return behind it. -/
theorem apply_crlf_of_lines (hparts : ∀ text, r.Parts text)
    (hline : ∀ line, '\n' ∉ line → '\r' ∉ line → '\n' ∉ (r.apply line).text ∧
      r.apply (line ++ ['\r']) = ⟨(r.apply line).text ++ ['\r'], (r.apply line).count⟩)
    (hr : '\r' ∉ text) :
    r.apply (crlf text) = ⟨crlf (r.apply text).text, (r.apply text).count⟩ := by
  induction text using lines_induction with
  | last line hn =>
    rw [crlf_of_not_mem hn, crlf_of_not_mem (hline line hn hr).1]
  | next line rest hn ih =>
    have hrl : '\r' ∉ line := fun hmem => hr (by simp [hmem])
    have hrr : '\r' ∉ rest := fun hmem => hr (by simp [hmem])
    obtain ⟨hnl, happly⟩ := hline line hn hrl
    have hsplit : crlf (line ++ '\n' :: rest) = (line ++ ['\r']) ++ '\n' :: crlf rest := by
      rw [crlf_append, crlf_of_not_mem hn, crlf_lineFeed, List.append_assoc]
      rfl
    rw [hsplit, hparts (line ++ ['\r']) (crlf rest), hparts line rest, happly, ih hrr, crlf_append,
      crlf_of_not_mem hnl, crlf_lineFeed, List.append_assoc]
    rfl

theorem apply_supersededTypeNode_concat (hn : '\n' ∉ line) :
    '\n' ∉ (supersededTypeNode.apply line).text ∧ supersededTypeNode.apply (line ++ ['\r']) =
      ⟨(supersededTypeNode.apply line).text ++ ['\r'], (supersededTypeNode.apply line).count⟩ := by
  have hn' : '\n' ∉ line ++ ['\r'] := by simp [hn]
  have hiff : TypedefWith " TypeNode ".toList (line ++ ['\r']) ↔
      TypedefWith " TypeNode ".toList line :=
    typedefWith_concat_iff (by decide) (by decide)
  rcases apply_supersededTypeNode_of_line hn with ⟨h, happly⟩ | ⟨h, happly⟩ <;>
    rcases apply_supersededTypeNode_of_line hn' with ⟨h', happly'⟩ | ⟨h', happly'⟩
  · rw [happly, happly']
    exact ⟨by simp [hn], by simp⟩
  · exact absurd (hiff.mpr h) h'
  · exact absurd (hiff.mp h') h
  · rw [happly, happly']
    exact ⟨hn, rfl⟩

theorem apply_importType_concat (hn : '\n' ∉ line) :
    '\n' ∉ (importType.apply line).text ∧ importType.apply (line ++ ['\r']) =
      ⟨(importType.apply line).text ++ ['\r'], (importType.apply line).count⟩ := by
  have hn' : '\n' ∉ line ++ ['\r'] := by simp [hn]
  have hiff : "import type ".toList <+: line ++ ['\r'] ↔ "import type ".toList <+: line := by
    refine ⟨fun h => ?_, fun h => h.trans (List.prefix_append _ _)⟩
    rcases List.prefix_concat_iff.mp h with h | h
    · have := congrArg List.getLast? h
      rw [List.getLast?_concat] at this
      exact absurd this (by decide)
    · exact h
  rcases apply_importType_of_line hn with ⟨h, happly⟩ | ⟨h, happly⟩ <;>
    rcases apply_importType_of_line hn' with ⟨h', happly'⟩ | ⟨h', happly'⟩
  · rw [happly, happly']
    exact ⟨by simp [hn], by simp⟩
  · exact absurd (hiff.mpr h) h'
  · exact absurd (hiff.mp h') h
  · rw [happly, happly']
    exact ⟨hn, rfl⟩

/-- Every rule but the last makes the same replacements in a text and in its `crlf`. -/
theorem apply_crlf (hr : r ≠ operationType) (h : '\r' ∉ text) :
    r.apply (crlf text) = ⟨crlf (r.apply text).text, (r.apply text).count⟩ := by
  have hput : ∀ r ∈ all, r ≠ operationType → ∀ s ∈ r.substitutions, s.replacement.InLine ∧
      '\r' ∉ s.replacement.added := by
    decide
  have hput := hput r r.mem_all hr
  -- rules whose matches lie in a line see no line end at all
  have hinline : r.Avoids ['\n', '\r'] →
      r.apply (crlf text) = ⟨crlf (r.apply text).text, (r.apply text).count⟩ := by
    intro havoids
    refine apply_crlf_of_keepsLineEnds (fun s hs => ⟨?_, hput s hs⟩) h
    exact Target.keepsLineEnds_of_admits (solid_of_mem hs) (havoids s hs _ (by simp))
      (havoids s hs _ (by simp))
  have hsingle : ∀ s, r.substitutions = [s] → s.target.KeepsLineEnds →
      r.apply (crlf text) = ⟨crlf (r.apply text).text, (r.apply text).count⟩ := by
    intro s hs hk
    refine apply_crlf_of_keepsLineEnds (fun s' hs' => ?_) h
    have := hput s' hs'
    rw [hs, List.mem_singleton] at hs'
    rw [hs'] at this ⊢
    exact ⟨hk, this⟩
  cases r with
  | operationType => exact absurd rfl hr
  | exportType | typeNodeUnion | optionalValue | kindLiteral | readOnlyArray =>
    exact hinline (by decide)
  | optionalField => exact hsingle _ rfl Target.keepsLineEnds_optionalField
  | variance => exact hsingle _ rfl Target.keepsLineEnds_variance
  | multiLineUnion => exact hsingle _ rfl Target.keepsLineEnds_multiLineUnion
  | singleLineUnion => exact hsingle _ rfl Target.keepsLineEnds_singleLineUnion
  | nullableToken => exact hsingle _ rfl Target.keepsLineEnds_nullableToken
  | primitives =>
    refine apply_crlf_of_keepsLineEnds (fun s hs => ⟨?_, hput s hs⟩) h
    simp only [substitutions, List.mem_cons, List.not_mem_nil, or_false] at hs
    rcases hs with rfl | rfl | rfl
    all_goals exact Target.keepsLineEnds_primitiveType (by decide) (by decide)
  | supersededTypeNode =>
    exact apply_crlf_of_lines (parts_of_avoids rfl (by decide))
      (fun line hn _ => apply_supersededTypeNode_concat hn) h
  | importType =>
    exact apply_crlf_of_lines (parts_of_avoids rfl (by decide))
      (fun line hn _ => apply_importType_concat hn) h

/-- The last rule finds the same typedef in a line with a carriage return behind it, and puts the
carriage return before the lines below. -/
theorem apply_operationType_concat (hn : '\n' ∉ line) :
    withoutReturns (operationType.apply (line ++ ['\r'])).text =
        withoutReturns (operationType.apply line).text ∧
      (operationType.apply (line ++ ['\r'])).count = (operationType.apply line).count := by
  have hn' : '\n' ∉ line ++ ['\r'] := by simp [hn]
  have hiff : ∀ {y}, TypedefWith " OperationTypeNode".toList (y ++ ['\r']) ↔
      TypedefWith " OperationTypeNode".toList y :=
    typedefWith_concat_iff (by decide) (by decide)
  -- a typedef of the longer line is one of the line, with the carriage return behind it
  have hsplit : ∀ {x y}, line ++ ['\r'] = x ++ y → TypedefWith " OperationTypeNode".toList y →
      ∃ y', y = y' ++ ['\r'] ∧ line = x ++ y' ∧ TypedefWith " OperationTypeNode".toList y' := by
    intro x y h hy
    rcases List.eq_nil_or_concat y with rfl | ⟨y', c, rfl⟩
    · obtain ⟨g, w, hnil⟩ := hy
      simp at hnil
    · rw [List.concat_eq_append, ← List.append_assoc] at h
      obtain ⟨hline, hc⟩ := List.append_inj' h rfl
      rw [List.concat_eq_append, ← hc] at hy ⊢
      exact ⟨y', rfl, hline, hiff.mp hy⟩
  have hreturn : withoutReturns ['\r'] = [] := rfl
  rcases apply_operationType_of_line hn with ⟨x, y, hxy, hy, hfirst, happly⟩ | ⟨hno, happly⟩ <;>
    rcases apply_operationType_of_line hn' with ⟨x', z, hxz, hz, hfirst', happly'⟩ | ⟨hno', happly'⟩
  · obtain ⟨y', rfl, hxy', hy'⟩ := hsplit hxz hz
    have hle := hfirst x' y' hxy' hy'
    have hge := hfirst' x (y ++ ['\r']) (by rw [hxy, List.append_assoc]) (hiff.mpr hy)
    obtain rfl : x = x' := hle.eq_of_length (Nat.le_antisymm hle.length_le hge.length_le)
    obtain rfl : y = y' := List.append_cancel_left (hxy.symm.trans hxy')
    rw [happly, happly']
    refine ⟨?_, rfl⟩
    simp only [withoutReturns_append, hreturn, List.append_nil]
  · exact absurd (hiff.mpr hy) (hno' x _ (by rw [hxy, List.append_assoc]))
  · obtain ⟨y', -, hxy', hy'⟩ := hsplit hxz hz
    exact absurd hy' (hno x' y' hxy')
  · rw [happly, happly']
    exact ⟨by simp only [withoutReturns_append, hreturn, List.append_nil], rfl⟩

theorem apply_operationType_crlf (text : List Char) :
    withoutReturns (operationType.apply (crlf text)).text =
        withoutReturns (operationType.apply text).text ∧
      (operationType.apply (crlf text)).count = (operationType.apply text).count := by
  have hparts : ∀ text, operationType.Parts text := parts_of_avoids rfl (by decide)
  induction text using lines_induction with
  | last line hn =>
    rw [crlf_of_not_mem hn]
    exact ⟨rfl, rfl⟩
  | next line rest hn ih =>
    obtain ⟨htext, hcount⟩ := apply_operationType_concat hn
    have hsplit : crlf (line ++ '\n' :: rest) = (line ++ ['\r']) ++ '\n' :: crlf rest := by
      rw [crlf_append, crlf_of_not_mem hn, crlf_lineFeed, List.append_assoc]
      rfl
    have hcons : ∀ w, withoutReturns ('\n' :: w) = '\n' :: withoutReturns w := fun _ => rfl
    rw [hsplit, hparts (line ++ ['\r']) (crlf rest), hparts line rest]
    refine ⟨?_, by rw [hcount, ih.2]⟩
    rw [withoutReturns_append, withoutReturns_append, hcons, hcons, htext, ih.1]

end Rule

/-! ### Runs -/

/-- The step, with a carriage return before every line feed of the text it left. -/
def Step.crlf (step : Step) : Step :=
  { step with text := HaxeTypedefs.crlf step.text }

namespace Run

theorem stepsFrom_append (rules rules' : List Rule) (text : List Char) :
    stepsFrom (rules ++ rules') text =
      stepsFrom rules text ++ stepsFrom rules' (textFrom rules text) := by
  induction rules generalizing text with
  | nil => rfl
  | cons r rules ih => exact congrArg (_ :: ·) (ih (r.apply text).text)

/-- Without the last rule, the steps of the two runs differ in carriage returns alone. -/
theorem stepsFrom_crlf {rules : List Rule} (hrules : Rule.operationType ∉ rules) {text : List Char}
    (h : '\r' ∉ text) :
    stepsFrom rules (crlf text) = (stepsFrom rules text).map Step.crlf ∧
      textFrom rules (crlf text) = crlf (textFrom rules text) := by
  have hadded : ∀ r ∈ Rule.all, r ≠ Rule.operationType → ∀ s ∈ r.substitutions,
      '\r' ∉ s.replacement.added := by
    decide
  induction rules generalizing text with
  | nil => exact ⟨rfl, rfl⟩
  | cons r rules ih =>
    rw [List.mem_cons, not_or] at hrules
    have hr := Ne.symm hrules.1
    have hnext : '\r' ∉ (r.apply text).text := fun hmem =>
      h (Rule.mem_apply_text (hadded r r.mem_all hr) hmem)
    obtain ⟨hsteps, htext⟩ := ih hrules.2 hnext
    have happly := Rule.apply_crlf hr h
    rw [stepsFrom, stepsFrom, textFrom_cons, textFrom_cons, happly, hsteps, htext]
    exact ⟨rfl, rfl⟩

/-- The last step of a run takes what the others leave. -/
theorem steps_of_eq (text : List Char) : (of text).steps = stepsFrom (Rule.all.take 13) text ++
    stepsFrom [Rule.operationType] (textFrom (Rule.all.take 13) text) := by
  have hall : Rule.all = Rule.all.take 13 ++ [Rule.operationType] := by decide
  rw [of, ← stepsFrom_append, ← hall]

theorem length_stepsFrom (rules : List Rule) (text : List Char) :
    (stepsFrom rules text).length = rules.length := by
  rw [← List.length_map Step.rule, map_rule_stepsFrom]

/-- Line feeds may have a carriage return before them: the rules make as many replacements, the
texts that all but the last of them leave differ in carriage returns before line feeds alone, and
the final texts are the same without carriage returns. -/
theorem of_crlf {text : List Char} (h : '\r' ∉ text) :
    (of (crlf text)).report = (of text).report ∧
      (of (crlf text)).steps.take 13 = ((of text).steps.take 13).map Step.crlf ∧
      withoutReturns (of (crlf text)).text = withoutReturns (of text).text := by
  obtain ⟨hbefore, htext⟩ := stepsFrom_crlf (by decide : Rule.operationType ∉ Rule.all.take 13) h
  obtain ⟨hlast, hcount⟩ := Rule.apply_operationType_crlf (textFrom (Rule.all.take 13) text)
  refine ⟨?_, ?_, ?_⟩
  · rw [report, report, steps_of_eq, steps_of_eq, hbefore, htext, List.map_append, List.map_append,
      List.map_map]
    simp only [stepsFrom, List.map_cons, List.map_nil, hcount]
    rfl
  · have hlength : ∀ text, (stepsFrom (Rule.all.take 13) text).length = 13 := length_stepsFrom _
    rw [steps_of_eq, steps_of_eq, List.take_left' (hlength _), List.take_left' (hlength _), hbefore]
  · have hall : Rule.all = Rule.all.take 13 ++ [Rule.operationType] := by decide
    rw [text_of, text_of, hall, textFrom_append, textFrom_append, htext]
    exact hlast

/-- A union over several lines, with carriage returns. -/
theorem of_crlf_union :
    '\r' ∉ "export type Node =\n  | A;\n".toList ∧
      (of (crlf "export type Node =\n  | A;\n".toList)).report =
        (of "export type Node =\n  | A;\n".toList).report ∧
      withoutReturns (of (crlf "export type Node =\n  | A;\n".toList)).text =
        withoutReturns (of "export type Node =\n  | A;\n".toList).text := by
  have hno : '\r' ∉ "export type Node =\n  | A;\n".toList := by decide
  obtain ⟨hreport, -, htext⟩ := of_crlf hno
  exact ⟨hno, hreport, htext⟩

end Run

end HaxeTypedefs
