/-
Delimiters, and what is left when those that close each other are taken away.

Two neighbours among the delimiters of a text, one of which closes what the other one opens,
cancel each other.  Pairs can be cancelled in any order: what is left in the end is always
what a stack keeps that is read through once.  What a replacement puts around or in the
place of a match is balanced in itself, and what it takes away has no delimiters, so a run
leaves a stack as it would have been.

* **`remains_iff`** — what is left does not depend on the order;
* **`balanced_iff_settle`** — a stack keeps nothing of the balanced texts, and of no others;
* **`Rule.settle_apply`** — a rule changes no stack;
* **`Run.conserves_delimiters`** — what a run does to the delimiters, colons and plus signs of a text.
-/
import Mathlib.Logic.Relation
import HaxeTypedefs.Proofs.Tally

namespace HaxeTypedefs

open Relation

/-! ### Cancelling -/

/-- The first delimiter opens what the second one closes. -/
def Opens (a b : Char) : Prop :=
  (a, b) ∈ [('(', ')'), ('{', '}'), ('[', ']'), ('<', '>')]

instance (a b : Char) : Decidable (Opens a b) :=
  inferInstanceAs (Decidable ((a, b) ∈ [('(', ')'), ('{', '}'), ('[', ']'), ('<', '>')]))

/-- The delimiters, open and closed. -/
def delimiterChars : List Char := ['(', ')', '{', '}', '[', ']', '<', '>']

/-- The text without everything else. -/
def delimiters (text : List Char) : List Char :=
  text.filter delimiterChars.contains

/-- Two neighbours that close each other are taken away. -/
inductive Cancels : List Char → List Char → Prop
  | pair {a b : Char} (x y : List Char) : Opens a b → Cancels (x ++ a :: b :: y) (x ++ y)

/-- The second text is left of the first when pairs have been cancelled until there is none. -/
def Remains (w v : List Char) : Prop :=
  ReflTransGen Cancels w v ∧ ∀ v', ¬ Cancels v v'

/-- Every delimiter has its partner, properly nested. -/
inductive Balanced : List Char → Prop
  | nil : Balanced []
  | nest {a b : Char} {v w : List Char} :
      Opens a b → Balanced v → Balanced w → Balanced (a :: v ++ b :: w)

/-- The stack, the top first, with one more delimiter. -/
def push : List Char → Char → List Char
  | [], c => [c]
  | a :: stack, c => if Opens a c then stack else c :: a :: stack

/-- The stack after reading the delimiters. -/
def settle (stack w : List Char) : List Char :=
  w.foldl push stack

/-- What opens a pair closes none. -/
theorem Opens.not_opens {a b : Char} (h : Opens a b) (d : Char) : ¬ Opens d a := by
  intro hd
  simp only [Opens, List.mem_cons, Prod.mk.injEq, List.not_mem_nil, or_false] at h hd
  have hclosed : a = ')' ∨ a = '}' ∨ a = ']' ∨ a = '>' := by tauto
  rcases h with ⟨rfl, -⟩ | ⟨rfl, -⟩ | ⟨rfl, -⟩ | ⟨rfl, -⟩ <;> exact absurd hclosed (by decide)

theorem push_push {a b : Char} (h : Opens a b) (stack : List Char) :
    push (push stack a) b = stack := by
  have hfirst : push stack a = a :: stack := by
    cases stack with
    | nil => rfl
    | cons d stack => exact if_neg (h.not_opens d)
  rw [hfirst]
  exact if_pos h

theorem settle_append (stack x y : List Char) :
    settle stack (x ++ y) = settle (settle stack x) y :=
  List.foldl_append

theorem Cancels.settle_eq {w w' : List Char} (h : Cancels w w') (stack : List Char) :
    settle stack w = settle stack w' := by
  obtain ⟨x, y, hab⟩ := h
  rw [settle_append, settle_append]
  generalize settle stack x = stack'
  rw [settle, List.foldl_cons, List.foldl_cons, push_push hab, settle]

theorem settle_eq_of_cancels {w w' : List Char} (h : ReflTransGen Cancels w w')
    (stack : List Char) : settle stack w = settle stack w' := by
  induction h with
  | refl => rfl
  | tail _ h ih => rw [ih, h.settle_eq]

/-- The stack can be reached by cancelling. -/
theorem cancels_settle (stack w : List Char) :
    ReflTransGen Cancels (stack.reverse ++ w) (settle stack w).reverse := by
  induction w generalizing stack with
  | nil =>
    rw [List.append_nil]
    exact .refl
  | cons c w ih =>
    have hpush := ih (push stack c)
    cases stack with
    | nil => exact hpush
    | cons a stack =>
      -- the top of the stack is the delimiter that was read last
      by_cases h : Opens a c
      · rw [push, if_pos h] at hpush
        refine .head ?_ (by simpa [settle, push, h] using hpush)
        rw [List.reverse_cons, List.append_assoc]
        exact .pair _ _ h
      · rw [push, if_neg h] at hpush
        simpa [settle, push, h] using hpush

theorem length_settle_le (stack w : List Char) :
    (settle stack w).length ≤ stack.length + w.length := by
  induction w generalizing stack with
  | nil => exact Nat.le_refl _
  | cons c w ih =>
    have hpush : (push stack c).length ≤ stack.length + 1 := by
      cases stack with
      | nil => exact Nat.le_refl _
      | cons a stack =>
        rw [push]
        split
        · exact Nat.le_succ_of_le (Nat.le_succ _)
        · exact Nat.le_refl _
    have := ih (push stack c)
    rw [List.length_cons]
    exact Nat.le_trans this (by omega)

theorem remains_iff {w v : List Char} : Remains w v ↔ v = (settle [] w).reverse := by
  have hreach : ∀ w, ReflTransGen Cancels w (settle [] w).reverse := cancels_settle []
  constructor
  · rintro ⟨h, hlast⟩
    rcases (hreach v).cases_head with hv | ⟨v', hv, -⟩
    · rw [settle_eq_of_cancels h, ← hv]
    · exact absurd hv (hlast v')
  · rintro rfl
    refine ⟨hreach w, fun v' hv => ?_⟩
    -- one more pair less, and the stack would have to be shorter than it is
    have hsame : settle [] v' = settle [] w := by
      rw [← hv.settle_eq, ← settle_eq_of_cancels (hreach w)]
    have hshort := length_settle_le [] v'
    rw [hsame] at hshort
    have hlen : v'.length < (settle [] w).reverse.length := by
      generalize (settle [] w).reverse = u at hv
      obtain ⟨x, y, -⟩ := hv
      simp only [List.length_append, List.length_cons]
      omega
    rw [List.length_reverse] at hlen
    rw [List.length_nil] at hshort
    omega

/-! ### Balanced texts -/

theorem Balanced.settle_eq {w : List Char} (h : Balanced w) (stack : List Char) :
    settle stack w = stack := by
  induction h generalizing stack with
  | nil => rfl
  | @nest a b v w hab _ _ ihv ihw =>
    have hopen : settle stack (a :: v ++ b :: w) = settle (push (settle (push stack a) v) b) w := by
      rw [settle_append]
      rfl
    rw [hopen, ihv, push_push hab, ihw]

/-- A pair can be put in anywhere. -/
theorem Balanced.insert {a b : Char} (hab : Opens a b) {x y : List Char} (h : Balanced (x ++ y)) :
    Balanced (x ++ a :: b :: y) := by
  generalize hz : x ++ y = z at h
  induction h generalizing x y with
  | nil =>
    obtain ⟨rfl, rfl⟩ := List.append_eq_nil_iff.mp hz
    exact .nest hab .nil .nil
  | @nest d e v w hde hv hw ihv ihw =>
    cases x with
    | nil =>
      obtain rfl : y = _ := hz
      exact .nest hab .nil (.nest hde hv hw)
    | cons d' x =>
      obtain ⟨rfl, htail⟩ := List.cons.inj hz
      -- the pair comes in before the partner of the first delimiter, or behind it
      rcases List.append_eq_append_iff.mp htail with ⟨z, rfl, rfl⟩ | ⟨z, rfl, hz'⟩
      · have := Balanced.nest hde (ihv rfl) hw
        simpa using this
      · cases z with
        | nil =>
          obtain rfl : y = e :: w := hz'.symm
          have := Balanced.nest hde (@ihv v [] (by simp)) hw
          simpa using this
        | cons e' z =>
          obtain ⟨rfl, rfl⟩ := List.cons.inj hz'
          have := Balanced.nest hde hv (ihw rfl)
          simpa using this

theorem balanced_iff_settle {w : List Char} : Balanced w ↔ settle [] w = [] := by
  refine ⟨fun h => h.settle_eq [], fun h => ?_⟩
  have hreach : ReflTransGen Cancels w [] := by
    have := cancels_settle [] w
    rwa [h] at this
  -- backwards from the empty text each pair that was cancelled is put in again
  induction hreach using ReflTransGen.head_induction_on with
  | refl => exact .nil
  | head hstep _ ih =>
    rw [hstep.settle_eq] at h
    obtain ⟨x, y, hab⟩ := hstep
    exact (ih h).insert hab

instance (w : List Char) : Decidable (Balanced w) :=
  decidable_of_iff _ balanced_iff_settle.symm

theorem delimiters_append (x y : List Char) : delimiters (x ++ y) = delimiters x ++ delimiters y :=
  List.filter_append x y

/-! ### Replacing -/

/-- No text of the pattern has a delimiter. -/
def Pattern.Bare (p : Pattern) : Prop :=
  ∀ c ∈ delimiterChars, p.admits c = false

instance (p : Pattern) : Decidable p.Bare :=
  inferInstanceAs (Decidable (∀ c ∈ delimiterChars, p.admits c = false))

theorem Pattern.Reads.delimiters_text {p : Pattern} {s t : Place} {r : Reading} (h : p.Reads s r t)
    (hp : p.Bare) : delimiters r.text = [] := by
  rw [delimiters, List.filter_eq_nil_iff]
  intro c hc hdelim
  have := h.admits_of_mem hc
  rw [hp c (by simpa using hdelim)] at this
  cases this

namespace Substitution

variable {s : Substitution}

/-- What the replacement leaves out of its match has no delimiters, and what it puts on each side of
the rest is balanced. -/
def Conserves (s : Substitution) : Prop :=
  match s.replacement with
  | .literal text => s.target.whole.Bare ∧ Balanced (delimiters text.toList)
  | .template opening closing => s.target.lead.Bare ∧ s.target.trail.Bare ∧
      Balanced (delimiters opening.toList) ∧ Balanced (delimiters closing.toList)
  | .supersede block => Balanced (delimiters block.toList)

instance (s : Substitution) : Decidable s.Conserves := by
  unfold Conserves
  cases s.replacement <;> exact inferInstance

theorem settle_render (h : s.Conserves) {place : Place} {m : Match}
    (hm : s.target.Chooses place m) (stack : List Char) :
    settle stack (delimiters (s.replacement.render m)) = settle stack (delimiters m.text) := by
  simp only [Conserves] at h
  -- a literal and the texts around a match settle to nothing by themselves, and what is dropped has none
  cases hr : s.replacement with
  | literal text =>
    simp only [hr] at h
    obtain ⟨r, u, hreads, htext, -⟩ := hm.exists_reads
    rw [Replacement.render, h.2.settle_eq, ← htext, hreads.delimiters_text h.1]
    rfl
  | template opening closing =>
    simp only [hr] at h
    obtain ⟨hbareLead, hbareTrail, hopening, hclosing⟩ := h
    obtain ⟨a, b, c, r, r', r'', hlead, -, htrail, rfl⟩ := hm.exists_parts
    simp only [Replacement.render, Match.text, delimiters_append, settle_append,
      hopening.settle_eq, hclosing.settle_eq, hlead.delimiters_text hbareLead,
      htrail.delimiters_text hbareTrail]
    rfl
  | supersede block =>
    simp only [hr] at h
    simp only [Replacement.render, delimiters_append, settle_append, h.settle_eq]
    rfl

theorem settle_rendered (h : s.Conserves) {behind gap : List Char}
    {ms : List (Match × List Char)} (hf : s.target.Factors behind gap ms) (stack : List Char) :
    settle stack (delimiters (s.rendered gap ms)) = settle stack (delimiters (spelled gap ms)) := by
  induction hf generalizing stack with
  | last _ => rfl
  | @next behind gap gap' m ms _ _ hm _ ih =>
    have hrest := ih (settle (settle stack (delimiters gap)) (delimiters m.text))
    simp only [rendered, spelled, List.flatMap_cons, delimiters_append, settle_append,
      settle_render h hm] at hrest ⊢
    exact hrest

theorem settle_apply (hs : s.target.Solid) (h : s.Conserves) (text stack : List Char) :
    settle stack (delimiters (s.apply text).text) = settle stack (delimiters text) := by
  obtain ⟨gap, ms, rfl, hf⟩ := Target.exists_factors hs [] text
  rw [apply_eq_of_factors hs hf]
  exact settle_rendered h hf stack

end Substitution

theorem Rule.conserves_of_mem (r : Rule) : ∀ s ∈ r.substitutions, s.Conserves := by
  have hother : ∀ r ∈ all.dropLast, ∀ s ∈ r.substitutions, s.Conserves := by decide +kernel
  refine forall_of_operationType (P := fun r => ∀ s ∈ r.substitutions, s.Conserves) ?_ hother r
  intro s hs
  obtain rfl := List.mem_singleton.mp hs
  show Balanced (delimiters operationTypes.render.toList)
  rw [toList_render_operationTypes]
  decide +kernel

/-- A rule changes no stack. -/
theorem Rule.settle_apply (r : Rule) (text stack : List Char) :
    settle stack (delimiters (r.apply text).text) = settle stack (delimiters text) := by
  refine apply_induction (P := fun f => ∀ text,
    settle stack (delimiters (f text).text) = settle stack (delimiters text)) (fun _ => rfl) ?_ text
  intro s hs hsolid f ih text
  rw [ih, Substitution.settle_apply hsolid (r.conserves_of_mem s hs)]

/-! ### Runs -/

namespace Run

theorem settle_textFrom (rules : List Rule) (text stack : List Char) :
    settle stack (delimiters (textFrom rules text)) = settle stack (delimiters text) := by
  induction rules generalizing text with
  | nil => rfl
  | cons r rules ih => rw [textFrom_cons, ih, r.settle_apply]

/-- `operationType` alone adds a colon, and none but the one of the enumeration. -/
theorem count_colon (text : List Char) : ((of text).text.count ':' : Int) =
    text.count ':' + (of text).report.count .operationType := by
  have hmoves : Rule.operationType.Moves ⟨[(':', 1)]⟩ 1 1 := by
    rw [Rule.moves_operationType_iff, toList_render_operationTypes]
    decide +kernel
  have hother : ∀ r ∈ Rule.all, r ≠ .operationType → r.Moves ⟨[(':', 1)]⟩ 0 0 := by
    decide +kernel
  have := weight_textFrom hmoves hother (show Rule.all.Nodup by decide) text
  rw [Scale.weight_single, Scale.weight_single, ← text_of, Int.mul_one] at this
  exact this

/-- `variance` alone takes plus signs away. -/
theorem count_plus (text : List Char) : ((of text).text.count '+' : Int) =
    text.count '+' - (of text).report.count .variance := by
  have hmoves : Rule.variance.Moves ⟨[('+', 1)]⟩ (-1) (-1) := by
    decide +kernel
  have hother : ∀ r ∈ Rule.all, r ≠ .variance → r.Moves ⟨[('+', 1)]⟩ 0 0 := by
    have hblock : Rule.operationType.Moves ⟨[('+', 1)]⟩ 0 0 := by
      rw [Rule.moves_operationType_iff, toList_render_operationTypes]
      decide +kernel
    have hmost : ∀ r ∈ Rule.all.dropLast, r ≠ .variance → r.Moves ⟨[('+', 1)]⟩ 0 0 := by
      decide +kernel
    exact fun r _ => Rule.forall_of_operationType
      (P := fun r => r ≠ .variance → r.Moves ⟨[('+', 1)]⟩ 0 0) (fun _ => hblock) hmost r
  have := weight_textFrom hmoves hother (show Rule.all.Nodup by decide) text
  rw [Scale.weight_single, Scale.weight_single, ← text_of, Int.mul_neg_one, ← Int.sub_eq_add_neg] at this
  exact this

/-- Of the delimiters of a text a run leaves what is left when pairs are cancelled, so the text is
balanced afterwards exactly if it was before; it brings a colon with each superseded operation type,
and takes a plus sign away with each variance mark. -/
theorem conserves_delimiters (text : List Char) :
    (∃ v, ∀ v', (Remains (delimiters text) v' ↔ v' = v) ∧
      (Remains (delimiters (of text).text) v' ↔ v' = v)) ∧
    (Balanced (delimiters (of text).text) ↔ Balanced (delimiters text)) ∧
    ((of text).text.count ':' : Int) = text.count ':' + (of text).report.count .operationType ∧
    ((of text).text.count '+' : Int) = text.count '+' - (of text).report.count .variance := by
  have hsettle : settle [] (delimiters (of text).text) = settle [] (delimiters text) := by
    rw [text_of, settle_textFrom]
  refine ⟨⟨(settle [] (delimiters text)).reverse, fun v' => ⟨remains_iff, ?_⟩⟩, ?_,
    count_colon text, count_plus text⟩
  · rw [remains_iff, hsettle]
  · rw [balanced_iff_settle, balanced_iff_settle, hsettle]

end Run

end HaxeTypedefs
