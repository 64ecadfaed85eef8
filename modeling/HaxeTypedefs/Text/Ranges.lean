/-
Sets of characters, given as ranges of code points.

A range is the pair of its first and its last code point.  An ascending list of
ranges becomes a search tree, in which a code point is looked up in a few steps:

* **`Ranges.has_ofList_iff`** — the tree of an ascending list has exactly the
  code points that lie in one of the ranges.
-/

namespace HaxeTypedefs

/-- A search tree of ranges: what lies below a range, the range, what lies above it. -/
inductive Ranges where
  | nothing
  | node (below : Ranges) (first last : Nat) (above : Ranges)
  deriving DecidableEq, Repr

/-- Each range of the list is one, and lies wholly before every later one. -/
abbrev Ascending (ranges : List (Nat × Nat)) : Prop :=
  (∀ r ∈ ranges, r.1 ≤ r.2) ∧ ranges.Pairwise fun r s => r.2 < s.1

namespace Ranges

/-- The code point lies in one of the ranges. -/
def has : Ranges → Nat → Bool
  | nothing, _ => false
  | node below first last above, n =>
    if n < first then below.has n else if last < n then above.has n else true

/-- The tree of an ascending list: halved as often as `depth` says, and a chain from there. -/
def ofList : (depth : Nat) → List (Nat × Nat) → Ranges
  | 0, ranges => ranges.foldr (fun r above => node nothing r.1 r.2 above) nothing
  | depth + 1, ranges =>
    match ranges.drop (ranges.length / 2) with
    | [] => nothing
    | r :: above =>
      node (ofList depth (ranges.take (ranges.length / 2))) r.1 r.2 (ofList depth above)

/-- A node between two trees that have the code points of two lists has those of the lists and
the range between them. -/
theorem has_node_iff {below above : Ranges} {bs as : List (Nat × Nat)} {r : Nat × Nat}
    (h : Ascending (bs ++ r :: as)) (n : Nat)
    (hb : below.has n = true ↔ ∃ s ∈ bs, s.1 ≤ n ∧ n ≤ s.2)
    (ha : above.has n = true ↔ ∃ s ∈ as, s.1 ≤ n ∧ n ≤ s.2) :
    (node below r.1 r.2 above).has n = true ↔ ∃ s ∈ bs ++ r :: as, s.1 ≤ n ∧ n ≤ s.2 := by
  obtain ⟨hle, hpair⟩ := h
  obtain ⟨-, hr, hbr⟩ := List.pairwise_append.mp hpair
  have hra := (List.pairwise_cons.mp hr).1
  have hbr : ∀ s ∈ bs, s.2 < r.1 := fun s hs => hbr s hs r List.mem_cons_self
  have hle_r : r.1 ≤ r.2 := hle r (by simp)
  have hle_a : ∀ s ∈ as, s.1 ≤ s.2 := fun s hs => hle s (by simp [hs])
  simp only [has, List.mem_append, List.mem_cons]
  split
  · rw [hb]
    constructor
    · rintro ⟨s, hs, hn⟩; exact ⟨s, .inl hs, hn⟩
    · rintro ⟨s, hs | rfl | hs, hn⟩
      · exact ⟨s, hs, hn⟩
      · omega
      · have := hra s hs; omega
  · split
    · rw [ha]
      constructor
      · rintro ⟨s, hs, hn⟩; exact ⟨s, .inr (.inr hs), hn⟩
      · rintro ⟨s, hs | rfl | hs, hn⟩
        · have := hbr s hs; omega
        · omega
        · exact ⟨s, hs, hn⟩
    · simp only [true_iff]
      exact ⟨r, .inr (.inl rfl), by omega⟩

theorem has_ofList_iff {ranges : List (Nat × Nat)} (h : Ascending ranges) (depth n : Nat) :
    (ofList depth ranges).has n = true ↔ ∃ r ∈ ranges, r.1 ≤ n ∧ n ≤ r.2 := by
  induction depth generalizing ranges with
  | zero =>
    induction ranges with
    | nil => simp [ofList, has]
    | cons r rest ih =>
      have hrest : Ascending rest :=
        ⟨fun s hs => h.1 s (List.mem_cons_of_mem _ hs), (List.pairwise_cons.mp h.2).2⟩
      exact @has_node_iff nothing _ [] rest r h n (by simp [has]) (ih hrest)
  | succ depth ih =>
    simp only [ofList]
    split
    · -- only the empty list has an empty upper half
      rename_i hdrop
      have : ranges = [] := by
        have := List.drop_eq_nil_iff.mp hdrop
        exact List.eq_nil_of_length_eq_zero (by omega)
      simp [this, has]
    · rename_i r above hdrop
      have hsplit : ranges.take (ranges.length / 2) ++ r :: above = ranges := by
        rw [← hdrop, List.take_append_drop]
      have hall : Ascending (ranges.take (ranges.length / 2) ++ r :: above) := by rwa [hsplit]
      have hlower : Ascending (ranges.take (ranges.length / 2)) :=
        ⟨fun s hs => hall.1 s (List.mem_append_left _ hs), (List.pairwise_append.mp hall.2).1⟩
      have hupper : Ascending above :=
        ⟨fun s hs => hall.1 s (by simp [hs]),
          (List.pairwise_cons.mp (List.pairwise_append.mp hall.2).2.1).2⟩
      rw [has_node_iff hall n (ih hlower) (ih hupper), hsplit]

end Ranges

end HaxeTypedefs
