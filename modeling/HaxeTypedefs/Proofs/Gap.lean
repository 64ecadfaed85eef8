/-
Gaps, and texts with a single match.

A stretch of a text is a gap where no match begins in it.  What a pattern needs,
what its texts begin with and what they cannot have is enough to see that, without
looking at readings.

* **`Target.free_of_lacks`**, **`Target.free_of_begins`**, **`Target.free_of_anchored`**,
  **`Target.free_of_admits`**, **`Target.free_of_opening`** — what makes a stretch a gap;
* **`places`** — how often something begins in a text;
* **`Substitution.apply_of_match`** — a match between two gaps is the only one to be replaced.
-/
import HaxeTypedefs.Proofs.LeftmostFirst

namespace HaxeTypedefs

namespace Target

variable {t : Target} {behind gap x y ahead w : List Char} {d : Char}

theorem free_nil : t.Free behind [] ahead := by
  intro u c v h
  cases u <;> cases h

theorem free_singleton (h : ¬ t.Matches (.between behind (d :: ahead))) : t.Free behind [d] ahead := by
  intro u c v hsplit
  cases u with
  | nil =>
    obtain ⟨rfl, rfl⟩ := List.cons.inj hsplit
    rwa [List.append_nil]
  | cons e u => simp at hsplit

theorem free_append (hx : t.Free behind x (y ++ ahead)) (hy : t.Free (behind ++ x) y ahead) :
    t.Free behind (x ++ y) ahead := by
  intro u c v h
  rcases List.append_eq_append_iff.mp h with ⟨z, rfl, hz⟩ | ⟨z, rfl, hz⟩
  · have := hy z c v hz
    rwa [List.append_assoc] at this
  · cases z with
    | nil =>
      have := hy [] c v hz.symm
      rwa [List.append_nil, List.append_nil] at this
    | cons e z =>
      obtain ⟨rfl, rfl⟩ := List.cons.inj hz
      have := hx u c z rfl
      simpa using this

theorem free_append_iff : t.Free behind (x ++ y) ahead ↔
    t.Free behind x (y ++ ahead) ∧ t.Free (behind ++ x) y ahead := by
  refine ⟨fun h => ⟨?_, ?_⟩, fun h => free_append h.1 h.2⟩
  · rintro u c v rfl hmatch
    exact h u c (v ++ y) (by simp) (by simpa using hmatch)
  · rintro u c v rfl hmatch
    exact h (x ++ u) c v (by simp) (by simpa using hmatch)

theorem not_matches_of_free (h : t.Free behind x ahead) (hx : x ≠ []) :
    ¬ t.Matches (.between behind (x ++ ahead)) := by
  obtain ⟨c, x, rfl⟩ := List.exists_cons_of_ne_nil hx
  have := h [] c x rfl
  rwa [List.append_nil] at this

/-- A gap may be made longer at its front. -/
theorem Factors.append_gap {ms : List (Match × List Char)} (h : t.Factors (behind ++ x) gap ms)
    (hx : t.Free behind x (spelled gap ms)) : t.Factors behind (x ++ gap) ms := by
  cases h with
  | last hgap =>
    refine .last (free_append ?_ hgap)
    simpa [spelled] using hx
  | next hgap hne hm hms =>
    refine .next (free_append ?_ hgap) hne ?_ ?_
    · simpa [spelled] using hx
    · simpa using hm
    · simpa using hms

/-- What the target needs is neither in the stretch nor behind it. -/
theorem free_of_lacks (hw : w ∈ t.whole.needs) (h : ¬ w <:+: gap ++ ahead) :
    t.Free behind gap ahead := by
  rintro u c v rfl ⟨r, p, hr⟩
  have hahead : c :: v ++ ahead = r.text ++ p.ahead := hr.reaches.ahead_eq
  have hpart : r.text <:+: u ++ c :: v ++ ahead := ⟨u, p.ahead, by simp [← hahead]⟩
  exact h ((hr.infix_of_mem_needs hw).trans hpart)

theorem free_of_begins (ht : t.Solid) (h : ∀ c ∈ gap, t.whole.begins c = false) :
    t.Free behind gap ahead := by
  rintro u c v rfl ⟨r, p, hr⟩
  have hbegins := hr.begins_of_ahead ht rfl
  rw [h c (by simp)] at hbegins
  cases hbegins

/-- The target asks for a line start, and no line begins in the stretch. -/
theorem free_of_anchored (ht : t.whole.anchored = true) {d : Char}
    (hlast : behind.getLast? = some d) (hd : d ≠ '\n') (hgap : '\n' ∉ gap) :
    t.Free behind gap ahead := by
  rintro u c v rfl ⟨r, p, hr⟩
  have hstart := Place.atLineStart_iff.mp (hr.atLineStart_of_anchored ht)
  rw [Place.between, List.getLast?_append, hlast] at hstart
  cases hu : u.getLast? with
  | none => simp [hu, hd] at hstart
  | some e =>
    obtain rfl : e = '\n' := by simpa [hu] using hstart
    exact hgap (List.mem_append_left _ (List.mem_of_getLast? hu))

/-- Behind the stretch stands a character that a match cannot have. -/
theorem free_of_admits (hd : t.whole.admits d = false) (hw : w ∈ t.whole.needs)
    (h : ¬ w <:+: gap) : t.Free behind gap (d :: ahead) := by
  rintro u c v rfl ⟨r, p, hr⟩
  have hahead : c :: v ++ d :: ahead = r.text ++ p.ahead := hr.reaches.ahead_eq
  have hmem : d ∉ r.text := by
    intro hmem
    rw [hr.admits_of_mem hmem] at hd
    cases hd
  -- the match ends before that character
  obtain ⟨z, hz⟩ : r.text <+: c :: v := by
    rcases List.append_eq_append_iff.mp hahead with ⟨z, hz, hz'⟩ | ⟨z, hz, -⟩
    · cases z with
      | nil => exact ⟨[], by simpa using hz⟩
      | cons e z =>
        obtain ⟨rfl, -⟩ := List.cons.inj hz'
        exact absurd (by simp [hz]) hmem
    · exact ⟨z, hz.symm⟩
  exact h ((hr.infix_of_mem_needs hw).trans ⟨u, z, by rw [List.append_assoc, hz]⟩)

/-- What a match begins with has a character that stands nowhere in the stretch, and stands right
behind it where the match would have to begin. -/
theorem free_of_opening {z : List Char} (hopening : t.whole.opening = w ++ d :: z) (hw : d ∉ w)
    (h : d ∉ gap) : t.Free behind gap (w ++ d :: ahead) := by
  rintro u c v rfl ⟨r, p, hr⟩
  obtain ⟨z', hz'⟩ := hr.opening_prefix
  have hahead : (c :: v ++ w) ++ d :: ahead = w ++ d :: (z ++ z' ++ p.ahead) := by
    have : c :: v ++ (w ++ d :: ahead) = r.text ++ p.ahead := hr.reaches.ahead_eq
    rw [List.append_assoc, this, ← hz', hopening]
    simp
  have hnot : d ∉ c :: v ++ w := by
    rw [List.mem_append] at h ⊢
    exact fun hmem => hmem.elim (fun hmem => h (.inr hmem)) hw
  -- a text is split in one way only where `d` comes first
  have hlen : ∀ {a a' b b' : List Char}, d ∉ a → d ∉ a' → a ++ d :: b = a' ++ d :: b' →
      a.length = a'.length := by
    intro a a' b b' ha ha' heq
    have hidx := congrArg (List.idxOf d) heq
    rwa [List.idxOf_append_of_notMem ha, List.idxOf_append_of_notMem ha', List.idxOf_cons_self,
      List.idxOf_cons_self, Nat.add_zero, Nat.add_zero] at hidx
  have := hlen hnot hw hahead
  rw [List.length_append, List.length_cons] at this
  omega

end Target

/-! ### Counting places -/

/-- At how many places of the text what lies ahead is of this kind. -/
def places (P : List Char → Bool) (text : List Char) : Nat :=
  text.tails.countP P

section

variable {P : List Char → Bool}

theorem places_cons (c : Char) (text : List Char) :
    places P (c :: text) = (if P (c :: text) then 1 else 0) + places P text := by
  have htails : (c :: text).tails = (c :: text) :: text.tails := by simp
  rw [places, htails, List.countP_cons, Nat.add_comm, places]

/-- Nothing of this kind begins in the first text. -/
theorem places_append_of_forall {x y : List Char}
    (h : ∀ u c v, x = u ++ c :: v → P (c :: v ++ y) = false) : places P (x ++ y) = places P y := by
  induction x with
  | nil => rfl
  | cons c x ih =>
    have hhere := h [] c x rfl
    have hrest := ih fun u d v hx => h (c :: u) d v (by rw [hx, List.cons_append])
    rw [List.cons_append] at hhere ⊢
    rw [places_cons, hrest, hhere]
    simp

end

namespace Substitution

variable {s : Substitution} {text x y : List Char} {m : Match}

theorem apply_of_free (hs : s.target.Solid) (h : s.target.Free [] text []) :
    s.apply text = ⟨text, 0⟩ := by
  have := apply_eq_of_factors hs (.last h)
  simpa [spelled, rendered] using this

/-- What stands behind the first match may be replaced, too. -/
theorem exists_text_apply_of_chooses (hs : s.target.Solid) (hx : s.target.Free [] x (m.text ++ y))
    (hm : s.target.Chooses (.between x (m.text ++ y)) m) :
    ∃ z, (s.apply (x ++ (m.text ++ y))).text = x ++ (s.replacement.render m ++ z) := by
  obtain ⟨gap, ms, rfl, hfactors⟩ := Target.exists_factors hs (x ++ m.text) y
  have hall : s.target.Factors [] x ((m, gap) :: ms) := .next hx (hm.text_ne_nil hs) hm hfactors
  have happly := apply_eq_of_factors hs hall
  rw [spelled_cons, rendered_cons] at happly
  exact ⟨_, congrArg Outcome.text happly⟩

theorem apply_of_match (hs : s.target.Solid) (hx : s.target.Free [] x (m.text ++ y))
    (hm : s.target.Chooses (.between x (m.text ++ y)) m) (hy : s.target.Free (x ++ m.text) y []) :
    s.apply (x ++ (m.text ++ y)) = ⟨x ++ (s.replacement.render m ++ y), 1⟩ := by
  have hsplit : spelled y [] = y := by simp [spelled]
  have hfactors : s.target.Factors [] x [(m, y)] := by
    refine .next ?_ (hm.text_ne_nil hs) ?_ (.last (by simpa using hy))
    · rwa [hsplit]
    · rwa [hsplit]
  have := apply_eq_of_factors hs hfactors
  simpa [spelled, rendered] using this

end Substitution

/-- The match of a rule between two gaps is replaced. -/
theorem Rule.text_apply_of_match {r : Rule} {s : Substitution} (hr : r.substitutions = [s])
    {x w y : List Char} {m : Match} (hm : s.target.Chooses (.between x (w ++ y)) m)
    (hw : m.text = w) (hx : s.target.Free [] x (w ++ y)) (hy : s.target.Free (x ++ w) y []) :
    (r.apply (x ++ (w ++ y))).text = x ++ (s.replacement.render m ++ y) := by
  have hs : s.target.Solid := solid_of_mem (r := r) (by rw [hr]; exact List.mem_singleton_self s)
  subst hw
  rw [apply_of_singleton hr, Substitution.apply_of_match hs hx hm hy]

end HaxeTypedefs
