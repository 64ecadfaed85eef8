/-
What replacing does to a weighted count of characters.

A scale gives a few characters a weight and all others none.  Where the part of a match
that a replacement leaves out always weighs the same, each replacement changes the weight
of the text by the same amount, whatever the text is.  There is a scale on which every
replacement of every rule adds something.  So a rule that has replaced something leaves
another text behind, and no later rule can bring the first one back.

* **`Pattern.Reads.weight_text`** — what a text of a pattern weighs, seen from the pattern;
* **`Rule.weight_apply`** — how far a rule moves the weight of a text;
* **`Run.weight_textFrom`** — what the run adds where a single rule adds something;
* **`Run.unchanged_iff_count_eq_zero`** — a count is zero exactly if the text stays as it is, for
  each step and for the whole run.
-/
import HaxeTypedefs.Proofs.Seam

namespace HaxeTypedefs

/-! ### Weights -/

/-- A few characters with their weights; the others weigh nothing. -/
structure Scale where
  entries : List (Char × Int)

namespace Scale

variable {σ : Scale}

def weigh (σ : Scale) (c : Char) : Int :=
  (σ.entries.lookup c).getD 0

/-- The weights of all characters of the text, added up. -/
def weight (σ : Scale) : List Char → Int
  | [] => 0
  | c :: text => σ.weigh c + σ.weight text

/-- No character of the class is on the scale. -/
def Ignores (σ : Scale) (k : CharClass) : Prop :=
  ∀ entry ∈ σ.entries, k.has entry.1 = false

instance (σ : Scale) (k : CharClass) : Decidable (σ.Ignores k) :=
  inferInstanceAs (Decidable (∀ entry ∈ σ.entries, k.has entry.1 = false))

@[simp] theorem weight_append (x y : List Char) : σ.weight (x ++ y) = σ.weight x + σ.weight y := by
  induction x with
  | nil => simp [weight]
  | cons c x ih => rw [List.cons_append, weight, weight, ih, Int.add_assoc]

theorem weigh_eq_zero {k : CharClass} (h : σ.Ignores k) {c : Char} (hc : k.has c = true) :
    σ.weigh c = 0 := by
  have hnone : σ.entries.lookup c = none := by
    rw [List.lookup_eq_none_iff]
    intro entry hentry
    rw [bne_iff_ne]
    rintro rfl
    rw [h entry hentry] at hc
    cases hc
  rw [weigh, hnone]
  rfl

theorem weight_eq_zero {k : CharClass} (h : σ.Ignores k) {w : List Char}
    (hw : ∀ c ∈ w, k.has c = true) : σ.weight w = 0 := by
  induction w with
  | nil => rfl
  | cons c w ih =>
    obtain ⟨hc, hw⟩ := List.forall_mem_cons.mp hw
    rw [weight, weigh_eq_zero h hc, ih hw, Int.add_zero]

/-- A scale with one character of weight one counts it. -/
theorem weight_single (c : Char) (text : List Char) :
    (Scale.mk [(c, 1)]).weight text = text.count c := by
  induction text with
  | nil => rfl
  | cons d text ih =>
    have hweigh : (Scale.mk [(c, 1)]).weigh d = if d = c then 1 else 0 := by
      by_cases h : d = c
      · simp [weigh, h]
      · have hne : (d == c) = false := by simpa using h
        simp [weigh, List.lookup_cons, h, hne]
    rw [weight, ih, hweigh, List.count_cons]
    by_cases h : d = c <;> simp [h, Int.add_comm]

end Scale

/-! ### What a pattern and a replacement weigh -/

/-- The weight of the texts of the pattern, if it is the same for all of them. -/
def Pattern.load (σ : Scale) : Pattern → Option Int
  | text w => some (σ.weight w)
  | one k | run k _ _ => if σ.Ignores k then some 0 else none
  | maybe p => if p.load σ = some 0 then some 0 else none
  | either p q => if p.load σ = q.load σ then p.load σ else none
  | seq p q => (p.load σ).bind fun m => (q.load σ).map (m + ·)
  | _ => some 0

theorem Pattern.Reads.weight_text {σ : Scale} {p : Pattern} {s t : Place} {r : Reading}
    (h : p.Reads s r t) {n : Int} (hn : p.load σ = some n) : σ.weight r.text = n := by
  induction h generalizing n with
  | text _ => exact Option.some.inj hn
  | @one k c _ _ hc _ =>
    obtain ⟨hk, rfl⟩ : σ.Ignores k ∧ 0 = n := by simpa [load] using hn
    exact Scale.weight_eq_zero hk (w := [c]) (by simpa using hc)
  | @run k _ _ _ _ _ hall _ _ =>
    obtain ⟨hk, rfl⟩ : σ.Ignores k ∧ 0 = n := by simpa [load] using hn
    exact Scale.weight_eq_zero hk hall
  | absent =>
    obtain ⟨-, rfl⟩ : _ ∧ 0 = n := by simpa [load] using hn
    rfl
  | present _ ih =>
    obtain ⟨hp, rfl⟩ : _ ∧ 0 = n := by simpa [load] using hn
    exact ih hp
  | left _ ih =>
    obtain ⟨-, hp⟩ : _ ∧ _ := by simpa [load] using hn
    exact ih hp
  | right _ ih =>
    obtain ⟨hpq, hp⟩ : _ ∧ _ := by simpa [load] using hn
    exact ih (hpq ▸ hp)
  | seq _ _ ih ih' =>
    simp only [load, Option.bind_eq_some_iff, Option.map_eq_some_iff] at hn
    obtain ⟨m, hm, m', hm', rfl⟩ := hn
    rw [Reading.text, Scale.weight_append, ih hm, ih' hm']
  | _ =>
    obtain rfl := Option.some.inj hn
    rfl

/-- The parts of a match are texts of the parts of its target. -/
theorem Target.Chooses.exists_parts {t : Target} {s : Place} {m : Match} (h : t.Chooses s m) :
    ∃ a b c r r' r'', t.lead.Reads s r a ∧ (t.marked.getD .nothing).Reads a r' b ∧
      t.trail.Reads b r'' c ∧ m = ⟨r.text, r'.text, r''.text⟩ := by
  obtain ⟨r, ⟨c, hr⟩, rfl, -⟩ := h
  obtain ⟨r, a, h, r₁, h₁, rfl⟩ := Pattern.reads_seq_iff.mp hr
  obtain ⟨r', b, h', r'', h'', rfl⟩ := Pattern.reads_seq_iff.mp h₁
  exact ⟨a, b, c, r, r', r'', h, h', h'', rfl⟩

namespace Substitution

variable {s : Substitution} {σ : Scale} {n : Int}

/-- The weight of what a replacement leaves out of its match. -/
def dropped (σ : Scale) (s : Substitution) : Option Int :=
  match s.replacement with
  | .literal _ => s.target.whole.load σ
  | .template _ _ => (s.target.lead.load σ).bind fun m => (s.target.trail.load σ).map (m + ·)
  | .supersede _ => some 0

/-- What each replacement adds to the weight of the text. -/
def change (σ : Scale) (s : Substitution) : Option Int :=
  (s.dropped σ).map (σ.weight s.replacement.added - ·)

theorem weight_render (hn : s.change σ = some n) {place : Place} {m : Match}
    (hm : s.target.Chooses place m) :
    σ.weight (s.replacement.render m) = σ.weight m.text + n := by
  obtain ⟨d, hd, rfl⟩ := Option.map_eq_some_iff.mp hn
  simp only [dropped] at hd
  -- a literal drops the whole match, a template drops what stands around the marked part
  cases hr : s.replacement with
  | literal text =>
    simp only [hr] at hd
    obtain ⟨r, u, hreads, htext, -⟩ := hm.exists_reads
    have hdropped : σ.weight m.text = d := htext ▸ hreads.weight_text hd
    rw [hdropped, Replacement.render, Replacement.added]
    omega
  | template opening closing =>
    simp only [hr, Option.bind_eq_some_iff, Option.map_eq_some_iff] at hd
    obtain ⟨l, hl, l', hl', rfl⟩ := hd
    obtain ⟨a, b, c, r, r', r'', hlead, -, htrail, rfl⟩ := hm.exists_parts
    have hwl := hlead.weight_text hl
    have hwt := htrail.weight_text hl'
    simp only [Replacement.render, Replacement.added, Match.text, Scale.weight_append]
    omega
  | supersede block =>
    simp only [hr] at hd
    obtain rfl := Option.some.inj hd
    simp only [Replacement.render, Replacement.added, Scale.weight_append]
    omega

theorem weight_rendered (hn : s.change σ = some n) {behind gap : List Char}
    {ms : List (Match × List Char)} (h : s.target.Factors behind gap ms) :
    σ.weight (s.rendered gap ms) = σ.weight (spelled gap ms) + ms.length * n := by
  induction h with
  | last _ => simp [rendered, spelled]
  | @next behind gap gap' m ms _ _ hm _ ih =>
    -- the gaps stand in both texts, so only the matches count
    have hrender := weight_render hn hm
    simp only [rendered, spelled, List.flatMap_cons, Scale.weight_append, List.length_cons] at ih ⊢
    rw [hrender, Int.natCast_add_one, Int.add_mul, Int.one_mul]
    omega

/-- Each replacement adds the same to the weight of the text. -/
theorem weight_apply (hs : s.target.Solid) (hn : s.change σ = some n) (text : List Char) :
    σ.weight (s.apply text).text = σ.weight text + (s.apply text).count * n := by
  obtain ⟨gap, ms, rfl, h⟩ := Target.exists_factors hs [] text
  rw [apply_eq_of_factors hs h]
  exact weight_rendered hn h

end Substitution

/-! ### What a rule adds -/

/-- Every substitution of the rule adds the same to the weight for each replacement, which is at least
the first number and at most the second. -/
def Rule.Moves (r : Rule) (σ : Scale) (lo hi : Int) : Prop :=
  ∀ s ∈ r.substitutions, ∃ n ∈ s.change σ, lo ≤ n ∧ n ≤ hi

instance (r : Rule) (σ : Scale) (lo hi : Int) : Decidable (r.Moves σ lo hi) :=
  inferInstanceAs (Decidable (∀ s ∈ r.substitutions, ∃ n ∈ s.change σ, lo ≤ n ∧ n ≤ hi))

theorem Rule.weight_apply {r : Rule} {σ : Scale} {lo hi : Int} (h : r.Moves σ lo hi)
    (text : List Char) :
    σ.weight text + (r.apply text).count * lo ≤ σ.weight (r.apply text).text ∧
      σ.weight (r.apply text).text ≤ σ.weight text + (r.apply text).count * hi := by
  refine apply_induction (P := fun f => ∀ text, σ.weight text + (f text).count * lo ≤
    σ.weight (f text).text ∧ σ.weight (f text).text ≤ σ.weight text + (f text).count * hi) ?_ ?_ text
  · intro text
    simp
  · intro s hs hsolid f ih text
    obtain ⟨n, hn, hlo, hhi⟩ := h s hs
    obtain ⟨hge, hle⟩ := ih (s.apply text).text
    have hfirst := Substitution.weight_apply hsolid hn text
    have hlo' := Int.mul_le_mul_of_nonneg_left hlo (Int.natCast_nonneg (s.apply text).count)
    have hhi' := Int.mul_le_mul_of_nonneg_left hhi (Int.natCast_nonneg (s.apply text).count)
    simp only [Int.natCast_add, Int.add_mul]
    omega

/-- What the comments, the type names and the optional mark of the replacements bring with them, and
what `variance` takes away. -/
def Scale.marks : Scale :=
  ⟨[('/', 1), ('*', 1), ('<', 1), ('B', 1), ('S', 1), ('I', 1), ('+', -1)]⟩

/-- The enumeration below a superseded typedef is the longest text that a replacement brings; its lines
are weighed as they are printed. -/
theorem Rule.moves_operationType_iff {σ : Scale} {lo hi : Int} :
    operationType.Moves σ lo hi ↔
      lo ≤ σ.weight "//   \n".toList + σ.weight operationTypes.render.toList ∧
        σ.weight "//   \n".toList + σ.weight operationTypes.render.toList ≤ hi := by
  have hchange : ∀ s ∈ operationType.substitutions, s.change σ =
      some (σ.weight "//   \n".toList + σ.weight operationTypes.render.toList) := by
    intro s hs
    obtain rfl := List.mem_singleton.mp hs
    rw [← Scale.weight_append]
    simp [Substitution.change, Substitution.dropped, Replacement.added]
  constructor
  · intro h
    obtain ⟨n, hn, hlo, hhi⟩ := h _ (List.mem_singleton_self _)
    rw [hchange _ (List.mem_singleton_self _)] at hn
    obtain rfl := Option.some.inj hn
    exact ⟨hlo, hhi⟩
  · intro h s hs
    exact ⟨_, hchange s hs, h⟩

/-- What can be computed for the other rules is seen for the last one from the printed lines. -/
theorem Rule.forall_of_operationType {P : Rule → Prop} (hlast : P operationType)
    (hother : ∀ r ∈ all.dropLast, P r) (r : Rule) : P r := by
  have hr : r ∈ all.dropLast ++ [operationType] := r.mem_all
  rcases List.mem_append.mp hr with hr | hr
  · exact hother r hr
  · rw [List.mem_singleton.mp hr]
    exact hlast

/-- On this scale each replacement adds something. -/
theorem Rule.moves_marks (r : Rule) : r.Moves .marks 1 20 := by
  have hother : ∀ r ∈ all.dropLast, r.Moves .marks 1 20 := by decide +kernel
  refine forall_of_operationType (P := fun r => r.Moves .marks 1 20) ?_ hother r
  rw [moves_operationType_iff, toList_render_operationTypes]
  decide +kernel

/-- A rule that replaces something leaves another text behind. -/
theorem Rule.count_eq_zero_iff {r : Rule} {text : List Char} :
    (r.apply text).count = 0 ↔ (r.apply text).text = text := by
  constructor
  · intro h
    refine apply_induction (P := fun f => (f text).count = 0 → (f text).text = text) (fun _ => rfl) ?_ h
    intro s _ _ f ih h
    obtain ⟨hs, hrest⟩ := Nat.add_eq_zero_iff.mp h
    have hfirst := Substitution.text_of_count_eq_zero hs
    rw [hfirst] at hrest
    dsimp only
    rw [hfirst, ih hrest]
  · intro h
    obtain ⟨hge, -⟩ := weight_apply r.moves_marks text
    rw [h] at hge
    omega

/-! ### Runs -/

namespace Run

/-- The running text: as it is before the first rule, and as each rule leaves it. -/
def texts (r : Run) : List (List Char) :=
  r.start :: r.steps.map Step.text

/-- A rule that takes part once is applied to the text that the ones before it have left, and its
count is the one of that step. -/
theorem exists_step_stepsFrom {rules : List Rule} (hrules : rules.Nodup) (text : List Char) {i : Nat}
    {r : Rule} (hi : rules[i]? = some r) :
    ∃ before, (text :: (stepsFrom rules text).map Step.text)[i]? = some before ∧
      (stepsFrom rules text)[i]? = some ⟨r, (r.apply before).count, (r.apply before).text⟩ ∧
      countFrom rules text r = (r.apply before).count := by
  induction rules generalizing text i with
  | nil => cases hi
  | cons r' rules ih =>
    obtain ⟨hr', hrules⟩ := List.nodup_cons.mp hrules
    -- behind the first rule the run goes on from what that rule has left
    cases i with
    | zero =>
      obtain rfl : r' = r := Option.some.inj hi
      exact ⟨text, rfl, rfl, by rw [countFrom_cons, if_pos rfl]⟩
    | succ i =>
      have hne : r ≠ r' := by
        rintro rfl
        exact hr' (List.mem_of_getElem? hi)
      obtain ⟨before, hbefore, hstep, hcount⟩ := ih hrules (r'.apply text).text hi
      refine ⟨before, hbefore, hstep, ?_⟩
      rw [countFrom_cons, if_neg hne, hcount]

theorem exists_step (text : List Char) (r : Rule) :
    ∃ before, (of text).texts[r.number - 1]? = some before ∧
      (of text).texts[r.number]? = some (r.apply before).text ∧
      (of text).report.counts[r.number - 1]? = some (r, (r.apply before).count) ∧
      (of text).report.count r = (r.apply before).count := by
  obtain ⟨before, hbefore, hstep, hcount⟩ :=
    exists_step_stepsFrom (by decide) text r.getElem?_all_number
  refine ⟨before, hbefore, ?_, ?_, hcount⟩
  · have hsucc : r.number = r.number - 1 + 1 := rfl
    rw [hsucc, texts, List.getElem?_cons_succ, List.getElem?_map]
    exact congrArg (Option.map Step.text) hstep
  · rw [report, List.getElem?_map]
    exact congrArg (Option.map fun step => (step.rule, step.count)) hstep

theorem countFrom_of_not_mem {rules : List Rule} {r : Rule} (h : r ∉ rules) (text : List Char) :
    countFrom rules text r = 0 := by
  induction rules generalizing text with
  | nil => rfl
  | cons r' rules ih =>
    rw [List.mem_cons, not_or] at h
    rw [countFrom_cons, if_neg h.1, ih h.2]

/-- Where one rule adds the same for each replacement and the others add nothing, its count tells what
the run adds. -/
theorem weight_textFrom {σ : Scale} {r : Rule} {n : Int} (hr : r.Moves σ n n)
    (hother : ∀ r' ∈ Rule.all, r' ≠ r → r'.Moves σ 0 0) {rules : List Rule} (hrules : rules.Nodup)
    (text : List Char) :
    σ.weight (textFrom rules text) = σ.weight text + countFrom rules text r * n := by
  induction rules generalizing text with
  | nil => simp [textFrom, countFrom, stepsFrom, Report.count]
  | cons r' rules ih =>
    obtain ⟨hr', hrules⟩ := List.nodup_cons.mp hrules
    have hrest := ih hrules (r'.apply text).text
    rw [textFrom_cons, countFrom_cons, hrest]
    by_cases h : r = r'
    · -- it takes part once, so the rules behind it have no count of it
      subst h
      obtain ⟨hge, hle⟩ := Rule.weight_apply hr text
      rw [if_pos rfl, countFrom_of_not_mem hr']
      omega
    · obtain ⟨hge, hle⟩ := Rule.weight_apply (hother r' r'.mem_all (Ne.symm h)) text
      rw [if_neg h]
      omega

/-- No later rule brings back a text that an earlier one has changed. -/
theorem textFrom_eq_iff {rules : List Rule} (hrules : rules.Nodup) (text : List Char) :
    textFrom rules text = text ↔ ∀ r ∈ rules, countFrom rules text r = 0 := by
  have hweight : ∀ (rules : List Rule) (text : List Char),
      Scale.marks.weight text ≤ Scale.marks.weight (textFrom rules text) := by
    intro rules
    induction rules with
    | nil => exact fun text => Int.le_refl _
    | cons r rules ih =>
      intro text
      obtain ⟨hge, -⟩ := Rule.weight_apply r.moves_marks text
      have hrest := ih (r.apply text).text
      rw [textFrom_cons]
      omega
  -- what the first rule adds to the weight cannot be taken away by the rules behind it
  induction rules with
  | nil => simp [textFrom]
  | cons r rules ih =>
    obtain ⟨hr, hrules⟩ := List.nodup_cons.mp hrules
    have hfirst : (r.apply text).text = text →
        (textFrom (r :: rules) text = text ↔ ∀ r' ∈ rules, countFrom (r :: rules) text r' = 0) := by
      intro hsame
      rw [textFrom_cons, hsame]
      refine (ih hrules).trans (forall₂_congr fun r' hr' => ?_)
      have hne : r' ≠ r := by
        rintro rfl
        exact hr hr'
      rw [countFrom_cons, if_neg hne, hsame]
    rw [List.forall_mem_cons, countFrom_cons, if_pos rfl, Rule.count_eq_zero_iff]
    constructor
    · intro h
      obtain ⟨hge, -⟩ := Rule.weight_apply r.moves_marks text
      have hrest := hweight rules (r.apply text).text
      rw [← textFrom_cons, h] at hrest
      have hsame : (r.apply text).text = text := Rule.count_eq_zero_iff.mp (by omega)
      exact ⟨hsame, (hfirst hsame).mp h⟩
    · rintro ⟨hsame, h⟩
      exact (hfirst hsame).mpr h

/-- A rule has replaced nothing exactly if the text before it is the text after it, and the text that
the run leaves is the one it begins with exactly if no rule has replaced anything. -/
theorem unchanged_iff_count_eq_zero (text : List Char) :
    (∀ r : Rule, ∃ before after, (of text).texts[r.number - 1]? = some before ∧
      (of text).texts[r.number]? = some after ∧
      ((of text).report.count r = 0 ↔ before = after)) ∧
    ((of text).text = text ↔ ∀ r : Rule, (of text).report.count r = 0) := by
  constructor
  · intro r
    obtain ⟨before, hbefore, hafter, -, hcount⟩ := exists_step text r
    refine ⟨before, _, hbefore, hafter, ?_⟩
    rw [hcount, Rule.count_eq_zero_iff]
    exact eq_comm
  · rw [text_of, textFrom_eq_iff (by decide)]
    exact ⟨fun h r => h r r.mem_all, fun h r _ => h r⟩

end Run

end HaxeTypedefs
