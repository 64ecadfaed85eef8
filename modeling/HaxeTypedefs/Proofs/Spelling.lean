/-
What the texts of a pattern look like.

The functions of this module are computed from a pattern alone and bound what its
readings read: how short a text can be, which fixed texts it must contain, and
which two characters can stand next to each other in it.  A text without one of
the needed texts has no match, and no match lies across two neighbours that the
pattern never brings together.

* **`Pattern.Reads.shortest_le`**, **`Pattern.Reads.infix_of_mem_needs`**,
  **`Pattern.Reads.joins_of_infix`** — the bounds hold of every reading;
* **`pair_infix_append_iff`** — neighbours in two texts put together.
-/
import HaxeTypedefs.Proofs.Reading

namespace HaxeTypedefs

/-- Two neighbours in a text put together are neighbours in a part or meet at the seam. -/
theorem pair_infix_append_iff {α : Type} {c d : α} {x y : List α} :
    [c, d] <:+: x ++ y ↔
      [c, d] <:+: x ∨ [c, d] <:+: y ∨ x.getLast? = some c ∧ y.head? = some d := by
  rw [List.infix_append_iff_ne_nil]
  refine or_congr_right (or_congr_right ⟨?_, ?_⟩)
  · rintro ⟨w, w', hw, hw', h, ⟨u, rfl⟩, ⟨v, rfl⟩⟩
    obtain ⟨rfl, rfl⟩ : w = [c] ∧ w' = [d] := by
      match w, w', hw, hw', h with
      | [_], [_], _, _, h => simpa using h.symm
      | [_], _ :: _ :: _, _, _, h => simp at h
      | _ :: _ :: w, _ :: _, _, _, h => simp at h
    simp
  · rintro ⟨hx, hy⟩
    refine ⟨[c], [d], by simp, by simp, rfl, ?_, ?_⟩
    · obtain ⟨u, rfl⟩ := List.getLast?_eq_some_iff.mp hx
      exact List.suffix_append _ _
    · obtain ⟨v, rfl⟩ := List.head?_eq_some_iff.mp hy
      exact ⟨v, rfl⟩

namespace Pattern

/-- No text of the pattern is shorter. -/
def shortest : Pattern → Nat
  | text w => w.length
  | one _ => 1
  | run _ least _ => least
  | either p q => min p.shortest q.shortest
  | seq p q => p.shortest + q.shortest
  | _ => 0

/-- Every text of the pattern contains these texts. -/
def needs : Pattern → List (List Char)
  | text w => [w]
  | seq p q => p.needs ++ q.needs
  | _ => []

/-- A text of the pattern may begin with the character. -/
def begins (c : Char) : Pattern → Bool
  | text w => w.head? == some c
  | one k | run k _ _ => k.has c
  | maybe p => p.begins c
  | either p q => p.begins c || q.begins c
  | seq p q => p.begins c || p.shortest == 0 && q.begins c
  | _ => false

/-- A text of the pattern may end with the character. -/
def finishes (c : Char) : Pattern → Bool
  | text w => w.getLast? == some c
  | one k | run k _ _ => k.has c
  | maybe p => p.finishes c
  | either p q => p.finishes c || q.finishes c
  | seq p q => q.finishes c || q.shortest == 0 && p.finishes c
  | _ => false

/-- The characters are neighbours in the text. -/
def hasPair (c d : Char) : List Char → Bool
  | x :: y :: w => x == c && y == d || hasPair c d (y :: w)
  | _ => false

/-- In a text of the pattern the characters may be neighbours, in this order. -/
def joins (c d : Char) : Pattern → Bool
  | text w => hasPair c d w
  | run k _ _ => k.has c && k.has d
  | maybe p => p.joins c d
  | either p q => p.joins c d || q.joins c d
  | seq p q => p.joins c d || q.joins c d || p.finishes c && q.begins d
  | _ => false

/-- A text of the pattern may have the character. -/
def admits (c : Char) : Pattern → Bool
  | text w => w.contains c
  | one k | run k _ _ => k.has c
  | maybe p => p.admits c
  | either p q | seq p q => p.admits c || q.admits c
  | _ => false

/-- Every text of the pattern begins with this text. -/
def opening : Pattern → List Char
  | text w => w
  | seq nothing q | seq lineStart q | seq wordEdge q => q.opening
  | seq p _ => p.opening
  | _ => []

/-- The pattern can only be read from the start of a line. -/
def anchored : Pattern → Bool
  | lineStart => true
  | seq p _ => p.anchored
  | _ => false

theorem hasPair_iff {c d : Char} {w : List Char} : hasPair c d w = true ↔ [c, d] <:+: w := by
  induction w with
  | nil => simp [hasPair]
  | cons x w ih =>
    rw [List.infix_cons_iff, ← ih]
    cases w with
    | nil => simp [hasPair]
    | cons y w =>
      simp only [hasPair, Bool.or_eq_true, Bool.and_eq_true, beq_iff_eq, List.cons_prefix_cons,
        List.nil_prefix, and_true]
      rw [@eq_comm _ x, @eq_comm _ y]

theorem Reads.atLineStart_of_anchored {p : Pattern} {s t : Place} {r : Reading}
    (h : p.Reads s r t) (hp : p.anchored = true) : s.atLineStart = true := by
  induction h with
  | lineStart hs => exact Place.atLineStart_iff.mpr hs
  | seq _ _ ih _ => exact ih hp
  | _ => cases hp

theorem Reads.shortest_le {p : Pattern} {s t : Place} {r : Reading} (h : p.Reads s r t) :
    p.shortest ≤ r.text.length := by
  induction h with
  | text _ => exact Nat.le_refl _
  | one _ _ => exact Nat.le_refl _
  | run _ hle _ => exact hle
  | left _ ih => exact Nat.le_trans (Nat.min_le_left _ _) ih
  | right _ ih => exact Nat.le_trans (Nat.min_le_right _ _) ih
  | seq _ _ ih ih' =>
    simp only [shortest, Reading.text, List.length_append]
    omega
  | _ => exact Nat.zero_le _

theorem Reads.infix_of_mem_needs {p : Pattern} {s t : Place} {r : Reading} (h : p.Reads s r t)
    {w : List Char} (hw : w ∈ p.needs) : w <:+: r.text := by
  induction h with
  | text _ => rw [List.mem_singleton.mp hw]; exact List.infix_rfl
  | seq _ _ ih ih' =>
    rcases List.mem_append.mp hw with hw | hw
    · exact List.infix_append_of_infix_left (ih hw)
    · exact List.infix_append_of_infix_right (ih' hw)
  | _ => cases hw

theorem Reads.admits_of_mem {p : Pattern} {s t : Place} {r : Reading} (h : p.Reads s r t)
    {c : Char} (hc : c ∈ r.text) : p.admits c = true := by
  induction h with
  | text _ => simpa [admits, Reading.text] using hc
  | one hk _ =>
    rw [List.mem_singleton.mp hc]
    exact hk
  | run hall _ _ => exact hall c hc
  | present _ ih => exact ih hc
  | left _ ih => simp [admits, ih hc]
  | right _ ih => simp [admits, ih hc]
  | seq _ _ ih ih' =>
    rcases List.mem_append.mp hc with hc | hc
    · simp [admits, ih hc]
    · simp [admits, ih' hc]
  | _ => cases hc

theorem Reads.opening_prefix {p : Pattern} {s t : Place} {r : Reading} (h : p.Reads s r t) :
    p.opening <+: r.text := by
  induction h with
  | text _ => exact List.prefix_rfl
  | @seq p q _ _ _ r r' h _ ih ih' =>
    -- a pattern that reads nothing leaves the opening to the next one
    have hnext : r = .plain [] → q.opening <+: (Reading.pair r r').text := by
      rintro rfl
      exact ih'
    cases p with
    | nothing => cases h; exact hnext rfl
    | lineStart => cases h; exact hnext rfl
    | wordEdge => cases h; exact hnext rfl
    | _ => exact ih.trans (List.prefix_append _ _)
  | _ => exact List.nil_prefix

theorem Reads.begins_of_head? {p : Pattern} {s t : Place} {r : Reading} (h : p.Reads s r t)
    {c : Char} (hc : r.text.head? = some c) : p.begins c = true := by
  induction h with
  | text _ => simpa [begins, Reading.text] using hc
  | one hk _ =>
    obtain rfl : _ = c := by simpa [Reading.text] using hc
    exact hk
  | run hall _ _ => exact hall c (List.mem_of_mem_head? hc)
  | present _ ih => exact ih hc
  | left _ ih => simp [begins, ih hc]
  | right _ ih => simp [begins, ih hc]
  | @seq p q s t u r r' h h' ih ih' =>
    simp only [Reading.text] at hc
    cases hr : r.text with
    | nil =>
      have := h.shortest_le
      simp only [hr, List.nil_append] at hc
      have hp : p.shortest = 0 := by simpa [hr] using this
      simp [begins, hp, ih' hc]
    | cons d w => simp [begins, ih (by simpa [hr] using hc)]
  | _ => cases hc

/-- A reading that reads something begins with the character that lies ahead. -/
theorem Reads.begins_of_ahead {p : Pattern} {s t : Place} {r : Reading} (h : p.Reads s r t)
    (hp : 0 < p.shortest) {c : Char} (hc : s.ahead.head? = some c) : p.begins c = true := by
  have hne : r.text ≠ [] := List.ne_nil_of_length_pos (Nat.lt_of_lt_of_le hp h.shortest_le)
  refine h.begins_of_head? ?_
  rwa [h.reaches.ahead_eq, List.head?_append, Option.or_of_isSome (List.isSome_head?.mpr hne)] at hc

theorem Reads.finishes_of_getLast? {p : Pattern} {s t : Place} {r : Reading} (h : p.Reads s r t)
    {c : Char} (hc : r.text.getLast? = some c) : p.finishes c = true := by
  induction h with
  | text _ => simpa [finishes, Reading.text] using hc
  | one hk _ =>
    obtain rfl : _ = c := by simpa [Reading.text] using hc
    exact hk
  | run hall _ _ => exact hall c (List.mem_of_getLast? hc)
  | present _ ih => exact ih hc
  | left _ ih => simp [finishes, ih hc]
  | right _ ih => simp [finishes, ih hc]
  | @seq p q s t u r r' h h' ih ih' =>
    simp only [Reading.text] at hc
    cases hr : r'.text with
    | nil =>
      have := h'.shortest_le
      simp only [hr, List.append_nil] at hc
      have hq : q.shortest = 0 := by simpa [hr] using this
      simp [finishes, hq, ih hc]
    | cons d w =>
      have hlast : r'.text.getLast? = some c := by
        rw [List.getLast?_append] at hc
        cases hl : r'.text.getLast? with
        | none => simp [hr] at hl
        | some e => simpa [hl] using hc
      simp [finishes, ih' hlast]
  | _ => cases hc

theorem Reads.joins_of_infix {p : Pattern} {s t : Place} {r : Reading} (h : p.Reads s r t)
    {c d : Char} (hcd : [c, d] <:+: r.text) : p.joins c d = true := by
  induction h with
  | text _ => exact hasPair_iff.mpr hcd
  | one _ _ => exact absurd hcd.length_le (by simp [Reading.text])
  | run hall _ _ =>
    have hc := hall c (hcd.subset (by simp))
    have hd := hall d (hcd.subset (by simp))
    simp [joins, hc, hd]
  | present _ ih => exact ih hcd
  | left _ ih => simp [joins, ih hcd]
  | right _ ih => simp [joins, ih hcd]
  | seq h h' ih ih' =>
    rcases pair_infix_append_iff.mp hcd with hcd | hcd | ⟨hc, hd⟩
    · simp [joins, ih hcd]
    · simp [joins, ih' hcd]
    · simp [joins, h.finishes_of_getLast? hc, h'.begins_of_head? hd]
  | _ => exact absurd hcd.length_le (by simp [Reading.text])

end Pattern

end HaxeTypedefs
