/-
Rules that wrap what they find, over and over.

Three rules put their match back, with an opening before it and a closing behind it.
Applied again, such a rule finds the matches of the text before, each deeper by one
opening and one closing, and no others: nothing that it looks for begins in what is put
in, and only a beginning of the match that stands right before an opening could go on in
it.  For one of the three rules there is such a beginning, and it has to be excluded.

* **`Substitution.exists_nested`** — the matches of a text in which every match is wrapped;
* **`Rule.iterate_apply_of_wrapping`** — the text after any number of applications, and
  how many replacements each of them makes.
-/
import Mathlib.Data.List.Infix
import Mathlib.Logic.Function.Iterate
import HaxeTypedefs.Proofs.Gap
import HaxeTypedefs.Proofs.Matches

namespace HaxeTypedefs

/-- The text as often as the number says. -/
def repeated (n : Nat) (w : List Char) : List Char := (List.replicate n w).flatten

theorem repeated_succ (n : Nat) (w : List Char) : repeated (n + 1) w = w ++ repeated n w := by
  rw [repeated, List.replicate_succ, List.flatten_cons, repeated]

theorem repeated_succ' (n : Nat) (w : List Char) : repeated (n + 1) w = repeated n w ++ w := by
  rw [repeated, List.replicate_succ', List.flatten_append, List.flatten_singleton, repeated]

/-- No end of the text is a beginning of the kernel, or begins with it. -/
def Alien (kernel text : List Char) : Prop :=
  ∀ v ∈ text.tails, v ≠ [] → ¬ v <+: kernel ∧ ¬ kernel <+: v

instance (kernel text : List Char) : Decidable (Alien kernel text) :=
  inferInstanceAs (Decidable (∀ v ∈ text.tails, v ≠ [] → ¬ v <+: kernel ∧ ¬ kernel <+: v))

/-- The beginnings of the kernel that an opening behind them could complete. -/
def hooks (kernel opening : List Char) : List (List Char) :=
  kernel.inits.filter fun v =>
    v ≠ [] ∧ kernel.drop v.length ≠ [] ∧
      (kernel.drop v.length <+: opening ∨ opening <+: kernel.drop v.length)

/-- What a rule looks for, between word edges or anywhere, and what it puts around it.  Nothing is
found in what is put in, and the edges are the same with it and without. -/
structure Wrapping where
  kernel : List Char
  edged : Bool
  opening : List Char
  closing : List Char
  kernel_ne_nil : kernel ≠ [] := by decide
  opening_ne_nil : opening ≠ [] := by decide
  closing_ne_nil : closing ≠ [] := by decide
  opening_alien : Alien kernel opening := by decide
  closing_alien : Alien kernel closing := by decide
  /-- a word begins with the kernel, and with the opening -/
  words_begin : edged = true →
    kernel.head?.any isWord = true ∧ opening.head?.any isWord = true := by decide
  /-- no word goes on from the opening into the kernel, or from the kernel into the closing -/
  words_end : edged = true →
    opening.getLast?.any isWord = false ∧ closing.head?.any isWord = false := by decide
  /-- a hook would have a word go on into the kernel -/
  hooks_end : edged = true → ∀ v ∈ hooks kernel opening, v.getLast?.any isWord = true := by decide

namespace Wrapping

variable (f : Wrapping)

/-- No match stands right behind one of the texts. -/
def Unhooked (hooks : List (List Char)) (gap : List Char) (ms : List (Match × List Char)) : Prop :=
  ∀ ms₁ x ms₂, ms = ms₁ ++ x :: ms₂ → ∀ v ∈ hooks, ¬ v <:+ spelled gap ms₁

/-- The text with `n` openings before and `n` closings behind each match. -/
def nested (n : Nat) (gap : List Char) (ms : List (Match × List Char)) : List Char :=
  gap ++ ms.flatMap fun x =>
    repeated n f.opening ++ x.1.text ++ repeated n f.closing ++ x.2

theorem nested_zero (gap : List Char) (ms : List (Match × List Char)) :
    f.nested 0 gap ms = spelled gap ms := by
  simp [nested, spelled, repeated]

theorem nested_cons (n : Nat) (gap gap' : List Char) (m : Match) (ms : List (Match × List Char)) :
    f.nested n gap ((m, gap') :: ms) = gap ++ (repeated n f.opening ++
      (m.text ++ (repeated n f.closing ++ f.nested n gap' ms))) := by
  simp [nested]

theorem Unhooked.of_cons {hooks : List (List Char)} {gap gap' : List Char} {m : Match}
    {ms : List (Match × List Char)} (h : Unhooked hooks gap ((m, gap') :: ms)) :
    (∀ v ∈ hooks, ¬ v <:+ gap) ∧ Unhooked hooks gap' ms := by
  constructor
  · intro v hv hgap
    exact h [] (m, gap') ms rfl v hv (by simpa [spelled] using hgap)
  · rintro ms₁ x ms₂ rfl v hv hgap
    refine h ((m, gap') :: ms₁) x ms₂ rfl v hv (hgap.trans ?_)
    exact ⟨gap ++ m.text, by simp [spelled]⟩

end Wrapping

/-- The substitution puts the match of the wrapping, wrapped, in its own place. -/
structure Substitution.Wraps (s : Substitution) (f : Wrapping) : Prop where
  solid : s.target.Solid
  matches_iff : ∀ {b ahead}, s.target.Matches ⟨b, ahead⟩ ↔ ∃ rest, ahead = f.kernel ++ rest ∧
    (f.edged = true → b.any isWord = false ∧ rest.head?.any isWord = false)
  text_eq : ∀ {place m}, s.target.Chooses place m → m.text = f.kernel
  render_eq : ∀ m, s.replacement.render m = f.opening ++ (f.kernel ++ f.closing)

namespace Substitution

variable {s : Substitution} {f : Wrapping} {behind behind' gap x ahead : List Char}
  {ms : List (Match × List Char)}

theorem Wraps.free_of_alien (hs : s.Wraps f) (hx : Alien f.kernel x) :
    s.target.Free behind x ahead := by
  rintro u c v rfl hmatch
  obtain ⟨rest, htext, -⟩ := hs.matches_iff.mp hmatch
  have hv : c :: v ∈ (u ++ c :: v).tails := (List.mem_tails _ _).mpr (List.suffix_append u _)
  obtain ⟨hshort, hlong⟩ := hx _ hv (List.cons_ne_nil c v)
  have hkernel : f.kernel <+: c :: v ++ ahead := ⟨rest, htext.symm⟩
  rcases List.prefix_or_prefix_of_prefix (List.prefix_append (c :: v) ahead) hkernel with h | h
  · exact hshort h
  · exact hlong h

theorem Wraps.free_repeated (hs : s.Wraps f) (hx : Alien f.kernel x) (n : Nat) :
    s.target.Free behind (repeated n x) ahead := by
  induction n generalizing behind with
  | zero => exact Target.free_nil
  | succ n ih =>
    rw [repeated_succ]
    exact Target.free_append (hs.free_of_alien hx) ih

/-- What stands behind a gap is seen only where the gap begins, and only if a word could begin
there. -/
theorem Wraps.free_of_behind (hs : s.Wraps f)
    (hstart : f.edged = true → behind'.getLast?.any isWord = behind.getLast?.any isWord ∨
      (gap ++ ahead).head?.any isWord = false)
    (h : s.target.Free behind gap ahead) : s.target.Free behind' gap ahead := by
  rintro u c v rfl hmatch
  obtain ⟨rest, htext, hedges⟩ := hs.matches_iff.mp hmatch
  refine h u c v rfl (hs.matches_iff.mpr ⟨rest, htext, fun hedged => ?_⟩)
  obtain ⟨hbefore, hafter⟩ := hedges hedged
  refine ⟨?_, hafter⟩
  rcases List.eq_nil_or_concat u with rfl | ⟨u, d, rfl⟩
  · have hword : (c :: v ++ ahead).head?.any isWord = true := by
      rw [htext, List.head?_append_of_ne_nil _ f.kernel_ne_nil]
      exact (f.words_begin hedged).1
    rw [List.append_nil] at hbefore ⊢
    rcases hstart hedged with hsame | hhead
    · rwa [← hsame]
    · rw [List.nil_append, hword] at hhead
      cases hhead
  · simpa using hbefore

/-- A gap before a match goes on being one when an opening comes between them. -/
theorem Wraps.free_before_opening (hs : s.Wraps f)
    (hhooks : ∀ v ∈ hooks f.kernel f.opening, ¬ v <:+ gap) {rest : List Char}
    (h : s.target.Free behind gap (f.kernel ++ rest)) :
    s.target.Free behind gap (f.opening ++ ahead) := by
  rintro u c v rfl hmatch
  obtain ⟨rest', htext, hedges⟩ := hs.matches_iff.mp hmatch
  have hwhole : ∀ z, c :: v = f.kernel ++ z → rest' = z ++ (f.opening ++ ahead) → False := by
    rintro z hz rfl
    -- the match lies in the gap, and was there before
    refine h u c v rfl (hs.matches_iff.mpr
      ⟨z ++ (f.kernel ++ rest), by rw [hz, List.append_assoc], fun hedged => ?_⟩)
    obtain ⟨hbefore, hafter⟩ := hedges hedged
    refine ⟨hbefore, ?_⟩
    cases z with
    | cons d z => exact hafter
    | nil =>
      rw [List.nil_append, List.head?_append_of_ne_nil _ f.opening_ne_nil,
        (f.words_begin hedged).2] at hafter
      cases hafter
  rcases List.append_eq_append_iff.mp htext with ⟨z, hz, hrest⟩ | ⟨z, hz, hrest⟩
  · cases z with
    | nil => exact hwhole [] (by simpa using hz.symm) (by simpa using hrest.symm)
    | cons d z =>
      -- the gap would end with a beginning of the match
      have hdrop : f.kernel.drop (c :: v).length = d :: z := by rw [hz, List.drop_left]
      have hopening : d :: z <+: f.opening ∨ f.opening <+: d :: z :=
        List.prefix_or_prefix_of_prefix ⟨rest', hrest.symm⟩ (List.prefix_append f.opening ahead)
      refine hhooks (c :: v) ?_ (List.suffix_append u _)
      simp only [hooks, List.mem_filter, List.mem_inits, hdrop, decide_eq_true_eq]
      exact ⟨⟨d :: z, hz.symm⟩, List.cons_ne_nil c v, List.cons_ne_nil d z, hopening⟩
  · exact hwhole z hz hrest

/-- A gap before a match and the openings that are put in behind it are one gap. -/
theorem Wraps.free_openings (hs : s.Wraps f)
    (hhooks : ∀ v ∈ hooks f.kernel f.opening, ¬ v <:+ gap) {rest : List Char}
    (h : s.target.Free behind gap (f.kernel ++ rest)) (n : Nat) :
    s.target.Free behind (gap ++ repeated (n + 1) f.opening) ahead := by
  refine Target.free_append ?_ (hs.free_repeated f.opening_alien (n + 1))
  rw [repeated_succ, List.append_assoc]
  exact hs.free_before_opening hhooks h

/-- Between word edges there is no hook before a match, and else there must be none. -/
theorem Wraps.not_hook_suffix {m : Match} (hs : s.Wraps f)
    (hm : s.target.Chooses (.between (behind ++ gap) ahead) m)
    (hhooks : f.edged = false → ∀ v ∈ hooks f.kernel f.opening, ¬ v <:+ gap) :
    ∀ v ∈ hooks f.kernel f.opening, ¬ v <:+ gap := by
  intro v hv hsuffix
  cases hedged : f.edged with
  | false => exact hhooks hedged v hv hsuffix
  | true =>
    -- a hook ends with a word character, and a match stands at the edge of a word
    have hword := f.hooks_end hedged v hv
    obtain ⟨rest, -, hedges⟩ := hs.matches_iff.mp hm.matches
    have hlast := (hedges hedged).1
    obtain ⟨u, rfl⟩ := hsuffix
    have hne : v ≠ [] := by
      rintro rfl
      cases hword
    rw [← List.append_assoc, List.getLast?_append_of_ne_nil _ hne, hword] at hlast
    cases hlast

theorem Wraps.matches_wrapped (hs : s.Wraps f) (x ahead : List Char) (n : Nat) : s.target.Matches
    (.between (x ++ repeated (n + 1) f.opening)
      (f.kernel ++ (repeated (n + 1) f.closing ++ ahead))) := by
  refine hs.matches_iff.mpr ⟨_, rfl, fun hedged => ?_⟩
  obtain ⟨hlast, hhead⟩ := f.words_end hedged
  constructor
  · rw [repeated_succ', ← List.append_assoc, List.getLast?_append_of_ne_nil _ f.opening_ne_nil,
      hlast]
  · rw [repeated_succ, List.append_assoc, List.head?_append_of_ne_nil _ f.closing_ne_nil, hhead]

/-- Where the matches are wrapped they are the matches still, and what was put in is in the gaps. -/
theorem Wraps.exists_nested (hs : s.Wraps f) (h : s.target.Factors behind gap ms)
    (hhooks : f.edged = false → Wrapping.Unhooked (hooks f.kernel f.opening) gap ms) (n : Nat)
    (behind' : List Char)
    (hstart : f.edged = true → behind'.getLast?.any isWord = behind.getLast?.any isWord ∨
      (spelled gap ms).head?.any isWord = false) :
    ∃ gap' ms', s.target.Factors behind' gap' ms' ∧ spelled gap' ms' = f.nested (n + 1) gap ms ∧
      s.rendered gap' ms' = f.nested (n + 2) gap ms ∧ ms'.length = ms.length := by
  -- what the induction carries on is the text behind, of which the edges see the end
  induction h generalizing behind' with
  | @last behind gap hgap =>
    refine ⟨gap, [], .last (hs.free_of_behind ?_ hgap), ?_, ?_, rfl⟩
    · simpa [spelled] using hstart
    · simp [spelled, Wrapping.nested]
    · simp [rendered, Wrapping.nested]
  | @next behind gap gap' m ms hgap hne hm hms ih =>
    obtain ⟨rest, htext, hedges⟩ := hs.matches_iff.mp hm.matches
    have hkernel := hs.text_eq hm
    obtain rfl : spelled gap' ms = rest := by
      rw [hkernel] at htext
      exact List.append_cancel_left htext
    have hgaphooks := hs.not_hook_suffix hm fun hedged => (hhooks hedged).of_cons.1
    obtain ⟨gap'', ms'', hfactors, hspelled, hrendered, hlength⟩ :=
      ih (fun hedged => (hhooks hedged).of_cons.2)
        (behind' ++ (gap ++ repeated (n + 1) f.opening) ++ f.kernel ++ repeated (n + 1) f.closing)
        (fun hedged => .inr (hedges hedged).2)
    -- the closings belong to the gap behind the match, and the openings to the one before it
    have hbehind := hfactors.append_gap (hs.free_repeated f.closing_alien (n + 1))
    have hspell : spelled (repeated (n + 1) f.closing ++ gap'') ms'' =
        repeated (n + 1) f.closing ++ spelled gap'' ms'' := by
      simp [spelled]
    have hbefore : s.target.Free behind' (gap ++ repeated (n + 1) f.opening)
        (f.kernel ++ spelled (repeated (n + 1) f.closing ++ gap'') ms'') := by
      have hgap' : s.target.Free behind' gap (f.kernel ++ spelled gap' ms) := by
        rw [← hkernel]
        refine hs.free_of_behind ?_ hgap
        simpa [spelled] using hstart
      exact hs.free_openings hgaphooks hgap' n
    obtain ⟨m', hm', -⟩ := Target.exists_chooses hs.solid
      (hs.matches_wrapped (behind' ++ gap) (spelled gap'' ms'') n)
    have hkernel' := hs.text_eq hm'
    rw [← hspell, List.append_assoc] at hm'
    refine ⟨gap ++ repeated (n + 1) f.opening, (m', repeated (n + 1) f.closing ++ gap'') :: ms'',
      .next ?_ ?_ ?_ ?_, ?_, ?_, by simp [hlength]⟩
    · rwa [hkernel']
    · rw [hkernel']
      exact f.kernel_ne_nil
    · rwa [hkernel']
    · rwa [hkernel']
    · rw [f.nested_cons, ← hspelled, hkernel]
      simp [spelled, hkernel']
    · rw [f.nested_cons, ← hrendered, hkernel, repeated_succ' (n + 1), repeated_succ (n + 1)]
      simp [rendered, hs.render_eq]

theorem Wraps.text_eq_of_mem (hs : s.Wraps f) (h : s.target.Factors behind gap ms) :
    ∀ x ∈ ms, x.1.text = f.kernel := by
  induction h with
  | last h => simp
  | @next behind gap gap' m ms hgap hne hm hms ih =>
    intro x hx
    rcases List.mem_cons.mp hx with rfl | hx
    · exact hs.text_eq hm
    · exact ih x hx

theorem Wraps.rendered_eq_nested (hs : s.Wraps f) (h : s.target.Factors behind gap ms) :
    s.rendered gap ms = f.nested 1 gap ms := by
  have hone : ∀ w, repeated 1 w = w := fun w => List.append_nil w
  have hmatch : ∀ x ∈ ms, s.replacement.render x.1 ++ x.2 =
      repeated 1 f.opening ++ x.1.text ++ repeated 1 f.closing ++ x.2 := by
    intro x hx
    rw [hs.render_eq, hone, hone, hs.text_eq_of_mem h x hx]
    simp only [List.append_assoc]
  rw [rendered, Wrapping.nested, List.flatMap_congr hmatch]

/-- A text without the hook right before what is looked for. -/
theorem Wraps.unhooked (hs : s.Wraps f) (h : s.target.Factors behind gap ms) {hook : List Char}
    (hno : ¬ hook ++ f.kernel <:+: spelled gap ms) : Wrapping.Unhooked [hook] gap ms := by
  rintro ms₁ x ms₂ rfl v hv ⟨u, hu⟩
  obtain rfl : v = hook := List.mem_singleton.mp hv
  refine hno ⟨u, x.2 ++ ms₂.flatMap fun x => x.1.text ++ x.2, ?_⟩
  have hkernel := hs.text_eq_of_mem h x (by simp)
  have hsplit : spelled gap (ms₁ ++ x :: ms₂) =
      spelled gap ms₁ ++ (x.1.text ++ (x.2 ++ ms₂.flatMap fun x => x.1.text ++ x.2)) := by
    simp [spelled]
  rw [hsplit, ← hu, hkernel]
  simp only [List.append_assoc]

/-- After any number of applications the matches are the first ones, with as many openings and
closings around each. -/
theorem Wraps.apply_nested (hs : s.Wraps f) (h : s.target.Factors [] gap ms)
    (hhooks : f.edged = false → Wrapping.Unhooked (hooks f.kernel f.opening) gap ms) (n : Nat) :
    s.apply (f.nested n gap ms) = ⟨f.nested (n + 1) gap ms, ms.length⟩ := by
  cases n with
  | zero =>
    rw [f.nested_zero, apply_eq_of_factors hs.solid h, hs.rendered_eq_nested h]
  | succ n =>
    obtain ⟨gap', ms', hfactors, hspelled, hrendered, hlength⟩ :=
      hs.exists_nested h hhooks n [] fun _ => .inl rfl
    rw [← hspelled, apply_eq_of_factors hs.solid hfactors, hrendered, hlength]

end Substitution

namespace Rule

/-- What the rule looks for and puts around it, if it puts back what it finds. -/
def wrapping? : Rule → Option Wrapping
  | exportType => some
    { kernel := "export type".toList, edged := false,
      opening := "typedef /* ".toList, closing := " */".toList }
  | typeNodeUnion => some
    { kernel := "NamedTypeNode | ListTypeNode".toList, edged := true,
      opening := "TypeNode /* ".toList, closing := " */".toList }
  | readOnlyArray => some
    { kernel := "$ReadOnlyArray".toList, edged := false,
      opening := "/* ".toList, closing := " */Array".toList }
  | _ => none

theorem wraps_of_text {f : Wrapping} {w : List Char} (hw : w = f.kernel) (hedged : f.edged = false)
    {text : String} (htext : text.toList = f.opening ++ (f.kernel ++ f.closing)) :
    (⟨.plain (.text w), .literal text⟩ : Substitution).Wraps f := by
  subst hw
  have hkernel := f.kernel_ne_nil
  have hsolid : (Target.plain (.text f.kernel)).Solid := by
    simpa [Target.Solid, Target.whole, Target.plain, Pattern.shortest] using
      List.length_pos_iff.mpr hkernel
  refine ⟨hsolid, ⟨fun h => ?_, ?_⟩, fun hm => ?_, fun _ => htext⟩
  · obtain ⟨m, hm, -⟩ := Target.exists_chooses hsolid h
    obtain ⟨rest, rfl, -⟩ := (Target.chooses_text_iff hkernel).mp hm
    exact ⟨rest, rfl, by simp [hedged]⟩
  · rintro ⟨rest, rfl, -⟩
    exact ((Target.chooses_text_iff hkernel).mpr ⟨rest, rfl, rfl⟩).matches
  · obtain ⟨rest, -, rfl⟩ := (Target.chooses_text_iff hkernel).mp hm
    simp [Match.text]

theorem exists_wraps {r : Rule} {f : Wrapping} (h : r.wrapping? = some f) :
    ∃ s, r.substitutions = [s] ∧ s.Wraps f := by
  cases r <;> cases h
  case exportType | readOnlyArray =>
    refine ⟨_, rfl, wraps_of_text ?_ ?_ ?_⟩ <;> rfl
  case typeNodeUnion =>
    refine ⟨_, rfl, by decide, ?_, Target.text_of_chooses_typeNodeUnion, fun _ => rfl⟩
    intro b ahead
    exact Target.matches_typeNodeUnion_iff.trans (by simp)

/-- Only before the matches of one of the rules there is something to exclude. -/
theorem unhooked_of_wrapping {r : Rule} {f : Wrapping} (h : r.wrapping? = some f) {gap : List Char}
    {ms : List (Match × List Char)}
    (hexport : r = exportType → Wrapping.Unhooked ["export ".toList] gap ms)
    (hedged : f.edged = false) : Wrapping.Unhooked (hooks f.kernel f.opening) gap ms := by
  cases r <;> cases h
  case exportType =>
    have hhooks : hooks "export type".toList "typedef /* ".toList = ["export ".toList] := by decide
    rw [hhooks]
    exact hexport rfl
  case typeNodeUnion => cases hedged
  case readOnlyArray =>
    have hhooks : hooks "$ReadOnlyArray".toList "/* ".toList = [] := by decide
    rw [hhooks]
    intro ms₁ x ms₂ _ v hv
    cases hv

/-- After `n` applications each match of the text stands between `n` openings and `n` closings, and
the next application replaces as many matches as there are in the text. -/
theorem iterate_apply_of_wrapping {r : Rule} {f : Wrapping} (h : r.wrapping? = some f)
    (text : List Char) :
    ∃ s gap ms, r.substitutions = [s] ∧ s.target.Factors [] gap ms ∧ spelled gap ms = text ∧
      ((r = exportType → ∀ ms₁ x ms₂, ms = ms₁ ++ x :: ms₂ →
          ¬ "export ".toList <:+ spelled gap ms₁) →
        ∀ n, (fun t => (r.apply t).text)^[n] text = f.nested n gap ms ∧
          (r.apply ((fun t => (r.apply t).text)^[n] text)).count = ms.length) := by
  obtain ⟨s, hsub, hs⟩ := exists_wraps h
  obtain ⟨gap, ms, rfl, hfactors⟩ := Target.exists_factors hs.solid [] text
  refine ⟨s, gap, ms, hsub, hfactors, rfl, fun hexport => ?_⟩
  have hhooks : f.edged = false → Wrapping.Unhooked (hooks f.kernel f.opening) gap ms := by
    refine unhooked_of_wrapping h fun hr ms₁ x ms₂ hms v hv => ?_
    rw [List.mem_singleton.mp hv]
    exact hexport hr ms₁ x ms₂ hms
  -- one application wraps each match once more
  have hstep : ∀ n, r.apply (f.nested n gap ms) = ⟨f.nested (n + 1) gap ms, ms.length⟩ := by
    intro n
    rw [apply_of_singleton hsub]
    exact hs.apply_nested hfactors hhooks n
  have htext : ∀ n, (fun t => (r.apply t).text)^[n] (spelled gap ms) = f.nested n gap ms := by
    intro n
    induction n with
    | zero => exact (f.nested_zero gap ms).symm
    | succ n ih => rw [Function.iterate_succ_apply', ih, hstep n]
  intro n
  rw [htext n, hstep n]
  exact ⟨rfl, rfl⟩

theorem iterate_exportType_of_lines :
    (exportType.apply ((fun t => (exportType.apply t).text)^[2]
      "export type A\nexport type B".toList)).count = 2 := by
  obtain ⟨s, gap, ms, hsub, hfactors, hspelled, hall⟩ :=
    iterate_apply_of_wrapping (r := exportType) rfl "export type A\nexport type B".toList
  obtain ⟨s', hsub', hs⟩ := exists_wraps (r := exportType) rfl
  rw [hsub] at hsub'
  obtain rfl := (List.cons.inj hsub').1
  have hno : ¬ "export ".toList ++ "export type".toList <:+: spelled gap ms := by
    rw [hspelled]
    decide
  have hunhooked := hs.unhooked hfactors hno
  have hcount := hall fun _ ms₁ x ms₂ hms => hunhooked ms₁ x ms₂ hms _ (List.mem_singleton_self _)
  -- the first application has two matches, and so has every other
  have hlength : ms.length = 2 := (hcount 0).2.symm.trans (by decide)
  rw [(hcount 2).2, hlength]

/-- What stands before the match here goes on in the opening, and is a match in the text after. -/
example : (exportType.apply "export export type".toList).count = 1 ∧
    (exportType.apply (exportType.apply "export export type".toList).text).count = 2 := by
  decide

end Rule

end HaxeTypedefs
