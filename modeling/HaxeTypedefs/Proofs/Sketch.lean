/-
Sketches: texts of which only some parts are known.

A slot stands for the texts that fit in it, a sketch for a text put together from
one text of each slot.  From the sketch alone it is decided which fixed texts may
occur in such a text; the answer errs on the side of yes.  A rule that needs a text
which cannot occur does nothing.

* **`Sketch.not_infix_of_fits`** — what may not occur in a sketch does not occur in any text
  that fits;
* **`Run.textFrom_of_idles`** — rules that a sketch idles leave every text that fits.
-/
import Mathlib.Data.List.Infix
import HaxeTypedefs.Proofs.Gap
import HaxeTypedefs.Proofs.Seam

namespace HaxeTypedefs

/-- The first text occurs in the second one, at its start and at its end where that is asked. -/
def occurs : (atStart atEnd : Bool) → List Char → List Char → Bool
  | true, true, v, w => v == w
  | true, false, v, w => v.isPrefixOf w
  | false, true, v, w => v.isSuffixOf w
  | false, false, v, w => w.tails.any v.isPrefixOf

theorem occurs_iff_isInfix {v w : List Char} : occurs false false v w = true ↔ v <:+: w := by
  rw [occurs, List.any_eq_true, List.infix_iff_prefix_suffix]
  refine exists_congr fun x => ?_
  rw [List.mem_tails, List.isPrefixOf_iff_prefix, and_comm]

theorem occurs_append (x v y : List Char) : occurs x.isEmpty y.isEmpty v (x ++ v ++ y) = true := by
  cases x with
  | nil =>
    cases y with
    | nil => simp [occurs]
    | cons d y => simp [occurs]
  | cons c x =>
    cases y with
    | nil => simp [occurs]
    | cons d y =>
      show occurs false false v (c :: x ++ v ++ d :: y) = true
      exact occurs_iff_isInfix.mpr ⟨c :: x, d :: y, rfl⟩

/-- What occurs in a part of a text, where the part stands at the start and at the end if that is
asked, occurs in the text. -/
theorem occurs_of_part {atStart atEnd : Bool} {v w x y : List Char}
    (h : occurs atStart atEnd v w = true) (hx : atStart = true → x = [])
    (hy : atEnd = true → y = []) : occurs atStart atEnd v (x ++ w ++ y) = true := by
  cases atStart with
  | true =>
    rw [hx rfl, List.nil_append]
    cases atEnd with
    | true => rwa [hy rfl, List.append_nil]
    | false =>
      rw [occurs, List.isPrefixOf_iff_prefix] at h ⊢
      exact h.trans (List.prefix_append _ _)
  | false =>
    cases atEnd with
    | true =>
      rw [hy rfl, List.append_nil]
      rw [occurs, List.isSuffixOf_iff_suffix] at h ⊢
      exact h.trans (List.suffix_append _ _)
    | false =>
      rw [occurs_iff_isInfix] at h ⊢
      exact h.trans ⟨x, y, rfl⟩

/-- Texts of one kind, and which texts may be a part of one of them. -/
structure Slot where
  holds : List Char → Prop
  /-- may be a part, that stands at the start, or at the end, or in neither place -/
  may : (atStart atEnd : Bool) → List Char → Bool
  sound : ∀ {x v y}, holds (x ++ v ++ y) → may x.isEmpty y.isEmpty v = true

namespace Slot

/-- Always the same text. -/
def fixed (w : String) : Slot where
  holds x := x = w.toList
  may atStart atEnd v := occurs atStart atEnd v w.toList
  sound h := h ▸ occurs_append _ _ _

instance : Coe String Slot := ⟨fixed⟩

/-- One of some texts. -/
def oneOf (ws : List String) : Slot where
  holds x := ∃ w ∈ ws, x = w.toList
  may atStart atEnd v := ws.any fun w => occurs atStart atEnd v w.toList
  sound := by
    rintro x v y ⟨w, hw, heq⟩
    exact List.any_eq_true.mpr ⟨w, hw, heq ▸ occurs_append x v y⟩

/-- Characters of one kind. -/
def chars (p : Char → Bool) : Slot where
  holds x := ∀ c ∈ x, p c = true
  may _ _ v := v.all p
  sound h := List.all_eq_true.mpr fun c hc => h c (by simp [hc])

/-- The texts of both slots. -/
def either (σ τ : Slot) : Slot where
  holds x := σ.holds x ∨ τ.holds x
  may atStart atEnd v := σ.may atStart atEnd v || τ.may atStart atEnd v
  sound h := by
    rw [Bool.or_eq_true]
    exact h.imp σ.sound τ.sound

/-- The texts of the slot in which the text does not occur. -/
def barring (σ : Slot) (atStart atEnd : Bool) (w : String) : Slot where
  holds x := σ.holds x ∧ occurs atStart atEnd w.toList x = false
  may first last v :=
    σ.may first last v &&
      !((first || !atStart) && (last || !atEnd) && occurs atStart atEnd w.toList v)
  sound := by
    rintro x v y ⟨hσ, hno⟩
    rw [Bool.and_eq_true, Bool.not_eq_true']
    refine ⟨σ.sound hσ, ?_⟩
    by_contra h
    simp only [Bool.not_eq_false, Bool.and_eq_true, Bool.or_eq_true, Bool.not_eq_true'] at h
    obtain ⟨⟨hx, hy⟩, hv⟩ := h
    rw [occurs_of_part hv] at hno
    · cases hno
    · rintro rfl
      simpa using hx
    · rintro rfl
      simpa using hy

/-- In a text of the slot, at its start or inside, may begin the text, which may go on in what
follows. -/
def opens (σ : Slot) (atStart : Bool) (follows : List Char → Bool) (v : List Char) : Bool :=
  σ.may atStart false v ||
    (List.range v.length).any fun n =>
      σ.may atStart true (v.take (n + 1)) && follows (v.drop (n + 1))

theorem opens_of_isPrefix {σ : Slot} {x w v text : List Char} {follows : List Char → Bool}
    (hσ : σ.holds (x ++ w)) (hw : w ≠ []) (hv : v <+: w ++ text)
    (hfollows : ∀ v', v' <+: text → follows v' = true) : σ.opens x.isEmpty follows v = true := by
  rw [opens, Bool.or_eq_true]
  have hend : ∀ v', v = w ++ v' → v' <+: text →
      ((List.range v.length).any fun n =>
        σ.may x.isEmpty true (v.take (n + 1)) && follows (v.drop (n + 1))) = true := by
    rintro v' rfl hv'
    have hlen : w.length - 1 + 1 = w.length := Nat.sub_add_cancel (List.length_pos_iff.mpr hw)
    refine List.any_eq_true.mpr ⟨w.length - 1, ?_, ?_⟩
    · rw [List.mem_range, List.length_append]
      omega
    · rw [hlen, List.take_left, List.drop_left, Bool.and_eq_true]
      refine ⟨?_, hfollows v' hv'⟩
      exact σ.sound (x := x) (v := w) (y := []) (by rwa [List.append_nil])
  -- what is looked for ends inside of the slot, or goes on behind it
  obtain ⟨z, hz⟩ := hv
  rcases List.append_eq_append_iff.mp hz with ⟨y, rfl, -⟩ | ⟨v', rfl, hv'⟩
  · cases y with
    | nil => exact .inr (hend [] (by simp) List.nil_prefix)
    | cons c y => exact .inl (σ.sound (x := x) (v := v) (y := c :: y) (by rwa [List.append_assoc]))
  · exact .inr (hend v' rfl ⟨z, hv'.symm⟩)

end Slot

abbrev Sketch := List Slot

namespace Sketch

/-- The text is put together from one text of each slot. -/
inductive Fits : Sketch → List Char → Prop
  | last {σ : Slot} {w : List Char} : σ.holds w → Fits [σ] w
  | next {σ : Slot} {o : Sketch} {w text : List Char} :
      σ.holds w → Fits o text → Fits (σ :: o) (w ++ text)

/-- A text that fits may begin with the text. -/
def mayBegin : Sketch → List Char → Bool
  | [], v => v.isEmpty
  | σ :: o, v => σ.opens true (mayBegin o) v || σ.may true true [] && mayBegin o v

/-- The text may begin in the first slot. -/
def mayBeginIn (σ : Slot) (o : Sketch) (v : List Char) : Bool :=
  σ.opens true (mayBegin o) v || σ.opens false (mayBegin o) v

/-- The text may occur in a text that fits. -/
def mayHave : Sketch → List Char → Bool
  | [], v => v.isEmpty
  | σ :: o, v => mayBeginIn σ o v || mayHave o v

variable {o : Sketch} {σ : Slot} {w text v : List Char}

theorem mayBegin_cons_of_isPrefix (hσ : σ.holds w)
    (htext : ∀ v', v' <+: text → o.mayBegin v' = true) (hv : v <+: w ++ text) :
    mayBegin (σ :: o) v = true := by
  rw [mayBegin, Bool.or_eq_true, Bool.and_eq_true]
  by_cases hw : w = []
  · subst hw
    exact .inr ⟨σ.sound (x := []) (v := []) (y := []) hσ, htext v hv⟩
  · exact .inl (Slot.opens_of_isPrefix (x := []) hσ hw hv htext)

theorem mayBegin_of_isPrefix (h : o.Fits text) (hv : v <+: text) : o.mayBegin v = true := by
  induction h generalizing v with
  | @last σ w hσ =>
    have hnone : ∀ v' : List Char, v' <+: [] → mayBegin [] v' = true := by
      intro v' hv'
      rw [List.prefix_nil.mp hv']
      rfl
    exact mayBegin_cons_of_isPrefix hσ hnone (by rwa [List.append_nil])
  | next hσ _ ih => exact mayBegin_cons_of_isPrefix hσ (fun v' hv' => ih hv') hv

/-- A text that begins inside the text of the first slot. -/
theorem mayBeginIn_of_isPrefix {x w' : List Char} (hσ : σ.holds (x ++ w')) (hw : w' ≠ [])
    (htext : ∀ v', v' <+: text → o.mayBegin v' = true) (hv : v <+: w' ++ text) :
    mayBeginIn σ o v = true := by
  have h := Slot.opens_of_isPrefix hσ hw hv htext
  rw [mayBeginIn, Bool.or_eq_true]
  cases hx : x.isEmpty with
  | true => exact .inl (hx ▸ h)
  | false => exact .inr (hx ▸ h)

theorem mayHave_cons_of_isInfix (hσ : σ.holds w) (htext : ∀ v', v' <+: text → o.mayBegin v' = true)
    (hrest : v <:+: text → o.mayHave v = true) (hv : v <:+: w ++ text) :
    mayHave (σ :: o) v = true := by
  rw [mayHave, Bool.or_eq_true]
  obtain ⟨x, y, hxy⟩ := hv
  rw [List.append_assoc] at hxy
  rcases List.append_eq_append_iff.mp hxy with ⟨w', rfl, hw'⟩ | ⟨x', rfl, hx'⟩
  · by_cases hnil : w' = []
    · subst hnil
      exact .inr (hrest ⟨[], y, by simpa using hw'⟩)
    · exact .inl (mayBeginIn_of_isPrefix hσ hnil htext ⟨y, hw'⟩)
  · exact .inr (hrest ⟨x', y, by rw [hx', List.append_assoc]⟩)

theorem mayHave_of_isInfix (h : o.Fits text) (hv : v <:+: text) : o.mayHave v = true := by
  induction h with
  | @last σ w hσ =>
    have hnone : ∀ v' : List Char, v' <+: [] → mayBegin [] v' = true := by
      intro v' hv'
      rw [List.prefix_nil.mp hv']
      rfl
    exact mayHave_cons_of_isInfix hσ hnone
      (fun hv' => hnone v (List.prefix_nil.mpr (List.infix_nil.mp hv')))
      (by rwa [List.append_nil])
  | next hσ htext ih =>
    exact mayHave_cons_of_isInfix hσ (fun v' hv' => mayBegin_of_isPrefix htext hv') ih hv

theorem not_infix_of_fits (h : o.Fits text) (hv : o.mayHave v = false) : ¬ v <:+: text := by
  intro hpart
  rw [mayHave_of_isInfix h hpart] at hv
  cases hv

theorem not_mem_of_fits (h : o.Fits text) {c : Char} (hc : o.mayHave [c] = false) : c ∉ text := by
  intro hmem
  obtain ⟨x, y, rfl⟩ := List.append_of_mem hmem
  exact not_infix_of_fits h hc ⟨x, y, by simp⟩

/-- No match of the target begins in a text that fits: what a match begins with may not begin in
the first slot, or the target needs a text that may not occur from there on. -/
def barren (t : Target) : Sketch → Bool
  | [] => true
  | σ :: o =>
    (t.whole.needs.any fun w => !mayHave (σ :: o) w) ||
      !mayBeginIn σ o t.whole.opening && barren t o

theorem free_cons_of_barren {t : Target} {behind : List Char} (h : Fits (σ :: o) (w ++ text))
    (hσ : σ.holds w) (htext : ∀ v', v' <+: text → o.mayBegin v' = true)
    (hrest : o.barren t = true → t.Free (behind ++ w) text []) (ht : barren t (σ :: o) = true) :
    t.Free behind (w ++ text) [] := by
  rw [barren, Bool.or_eq_true, Bool.and_eq_true] at ht
  rcases ht with ht | ⟨hfirst, ht⟩
  · obtain ⟨v, hv, hno⟩ := List.any_eq_true.mp ht
    refine Target.free_of_lacks hv ?_
    rw [List.append_nil]
    exact not_infix_of_fits h (by simpa using hno)
  · refine Target.free_append ?_ (hrest ht)
    rintro x c y rfl ⟨r, u, hr⟩
    have hahead : c :: y ++ text = r.text ++ u.ahead := by
      have : c :: y ++ (text ++ []) = r.text ++ u.ahead := hr.reaches.ahead_eq
      rwa [List.append_nil] at this
    have hopening : t.whole.opening <+: c :: y ++ text :=
      hr.opening_prefix.trans ⟨u.ahead, hahead.symm⟩
    rw [mayBeginIn_of_isPrefix hσ (List.cons_ne_nil c y) htext hopening] at hfirst
    cases hfirst

theorem free_of_barren {t : Target} (h : o.Fits text) (ht : o.barren t = true)
    (behind : List Char) : t.Free behind text [] := by
  induction h generalizing behind with
  | @last σ w hσ =>
    have hfits : Fits [σ] (w ++ []) := by
      rw [List.append_nil]
      exact .last hσ
    have hnone : ∀ v' : List Char, v' <+: [] → mayBegin [] v' = true := by
      intro v' hv'
      rw [List.prefix_nil.mp hv']
      rfl
    have hfree : t.Free behind (w ++ []) [] :=
      free_cons_of_barren hfits hσ hnone (fun _ => Target.free_nil) ht
    rwa [List.append_nil] at hfree
  | next hσ htext ih =>
    exact free_cons_of_barren (.next hσ htext) hσ (fun v' hv' => mayBegin_of_isPrefix htext hv')
      (fun ht => ih ht _) ht

/-- No substitution of the rule has a match. -/
def idles (o : Sketch) (r : Rule) : Bool :=
  r.substitutions.all fun s => o.barren s.target

end Sketch

theorem Rule.apply_of_idles {o : Sketch} {text : List Char} (h : o.Fits text) {r : Rule}
    (hr : o.idles r = true) : r.apply text = ⟨text, 0⟩ := by
  refine apply_induction (P := fun f => f text = ⟨text, 0⟩) rfl fun s hs hsolid f ih => ?_
  have hfree := Sketch.free_of_barren h (List.all_eq_true.mp hr s hs) []
  dsimp only
  rw [Substitution.apply_of_free hsolid hfree, ih]
  rfl

namespace Run

theorem textFrom_of_idles {o : Sketch} {text : List Char} (h : o.Fits text) {rules : List Rule}
    (hr : rules.all o.idles = true) : textFrom rules text = text := by
  induction rules with
  | nil => rfl
  | cons r rules ih =>
    rw [List.all_cons, Bool.and_eq_true] at hr
    rw [textFrom_cons, Rule.apply_of_idles h hr.1, ih hr.2]

end Run

end HaxeTypedefs
