/-
Readings of a pattern, without a search.

A `Reading` records how a pattern has been read: the characters of each part and
every choice on the way.  `Pattern.Reads` says which readings there are at a
place, in any order; `Pattern.Prefers` says which of two readings the greedy and
the lazy operators would rather have.  The first choice that differs decides.

* **`Pattern.exists_listed`** — `Pattern.ends` lists the ends of exactly these
  readings, each one preferred to all behind it;
* **`Pattern.Prefers.asymm`** — of two readings at most one is preferred.
-/
import Mathlib.Tactic.Choose
import HaxeTypedefs.Pattern.Basic

namespace HaxeTypedefs

/-- How a pattern has been read. -/
inductive Reading where
  | plain (w : List Char)
  /-- an optional pattern that is left out -/
  | absent
  | present (r : Reading)
  | left (r : Reading)
  | right (r : Reading)
  | pair (r r' : Reading)

/-- The characters read. -/
def Reading.text : Reading → List Char
  | plain w => w
  | absent => []
  | present r | left r | right r => r.text
  | pair r r' => r.text ++ r'.text

/-- The pattern can be read in this way from the first place to the second. -/
inductive Pattern.Reads : Pattern → Place → Reading → Place → Prop
  | nothing {s : Place} : Reads .nothing s (.plain []) s
  | text {w : List Char} {s t : Place} : s.Reaches w t → Reads (.text w) s (.plain w) t
  | one {k : CharClass} {c : Char} {s t : Place} :
      k.has c = true → s.Reaches [c] t → Reads (.one k) s (.plain [c]) t
  | run {k : CharClass} {least : Nat} {wish : Preference} {w : List Char} {s t : Place} :
      (∀ c ∈ w, k.has c = true) → least ≤ w.length → s.Reaches w t →
        Reads (.run k least wish) s (.plain w) t
  | absent {p : Pattern} {s : Place} : Reads (.maybe p) s .absent s
  | present {p : Pattern} {s t : Place} {r : Reading} :
      Reads p s r t → Reads (.maybe p) s (.present r) t
  | left {p q : Pattern} {s t : Place} {r : Reading} :
      Reads p s r t → Reads (.either p q) s (.left r) t
  | right {p q : Pattern} {s t : Place} {r : Reading} :
      Reads q s r t → Reads (.either p q) s (.right r) t
  | seq {p q : Pattern} {s t u : Place} {r r' : Reading} :
      Reads p s r t → Reads q t r' u → Reads (.seq p q) s (.pair r r') u
  | lineStart {s : Place} :
      s.before = none ∨ s.before = some '\n' → Reads .lineStart s (.plain []) s
  | wordEdge {s : Place} :
      ((∃ c, s.before = some c ∧ isWord c = true) ↔
        ¬ ∃ c, s.ahead.head? = some c ∧ isWord c = true) →
      Reads .wordEdge s (.plain []) s

/-- The operators of the pattern would rather have the first reading than the second. -/
inductive Pattern.Prefers : Pattern → Reading → Reading → Prop
  | most {k : CharClass} {least : Nat} {w w' : List Char} :
      w'.length < w.length → Prefers (.run k least .most) (.plain w) (.plain w')
  | fewest {k : CharClass} {least : Nat} {w w' : List Char} :
      w.length < w'.length → Prefers (.run k least .fewest) (.plain w) (.plain w')
  | present {p : Pattern} {r : Reading} : Prefers (.maybe p) (.present r) .absent
  | inPresent {p : Pattern} {r r' : Reading} :
      Prefers p r r' → Prefers (.maybe p) (.present r) (.present r')
  | left {p q : Pattern} {r r' : Reading} : Prefers (.either p q) (.left r) (.right r')
  | inLeft {p q : Pattern} {r r' : Reading} :
      Prefers p r r' → Prefers (.either p q) (.left r) (.left r')
  | inRight {p q : Pattern} {r r' : Reading} :
      Prefers q r r' → Prefers (.either p q) (.right r) (.right r')
  | first {p q : Pattern} {r r' u u' : Reading} :
      Prefers p r r' → Prefers (.seq p q) (.pair r u) (.pair r' u')
  | second {p q : Pattern} {r u u' : Reading} :
      Prefers q u u' → Prefers (.seq p q) (.pair r u) (.pair r u')

/-! ### Preference is an order -/

theorem Pattern.Prefers.ne {p : Pattern} {r r' : Reading} (h : p.Prefers r r') : r ≠ r' := by
  induction h with
  | most hlt => rintro ⟨⟩; omega
  | fewest hlt => rintro ⟨⟩; omega
  | present => rintro ⟨⟩
  | inPresent _ ih => rintro ⟨⟩; exact ih rfl
  | left => rintro ⟨⟩
  | inLeft _ ih => rintro ⟨⟩; exact ih rfl
  | inRight _ ih => rintro ⟨⟩; exact ih rfl
  | first _ ih => rintro ⟨⟩; exact ih rfl
  | second _ ih => rintro ⟨⟩; exact ih rfl

theorem Pattern.Prefers.asymm {p : Pattern} {r r' : Reading} (h : p.Prefers r r') :
    ¬ p.Prefers r' r := by
  induction h with
  | most hlt => intro h'; cases h' with | most hlt' => omega
  | fewest hlt => intro h'; cases h' with | fewest hlt' => omega
  | present => intro h'; cases h'
  | inPresent _ ih => intro h'; cases h' with | inPresent h' => exact ih h'
  | left => intro h'; cases h'
  | inLeft _ ih => intro h'; cases h' with | inLeft h' => exact ih h'
  | inRight _ ih => intro h'; cases h' with | inRight h' => exact ih h'
  | first h ih =>
    intro h'
    cases h' with
    | first h' => exact ih h'
    | second _ => exact h.ne rfl
  | second _ ih =>
    intro h'
    cases h' with
    | first h' => exact h'.ne rfl
    | second h' => exact ih h'

/-! ### A reading moves over its text -/

theorem Pattern.Reads.reaches {p : Pattern} {s t : Place} {r : Reading} (h : p.Reads s r t) :
    s.Reaches r.text t := by
  induction h with
  | nothing => exact .here _
  | text h => exact h
  | one _ h => exact h
  | run _ _ h => exact h
  | absent => exact .here _
  | present _ ih => exact ih
  | left _ ih => exact ih
  | right _ ih => exact ih
  | seq _ _ ih ih' => exact ih.trans ih'
  | lineStart _ => exact .here _
  | wordEdge _ => exact .here _

theorem Place.Reaches.unique {s t t' : Place} {w : List Char} (h : s.Reaches w t)
    (h' : s.Reaches w t') : t = t' := by
  induction h with
  | here => cases h'; rfl
  | step _ ih => cases h' with | step h' => exact ih h'

theorem Place.read?_eq_some_iff {w : List Char} {s t : Place} :
    s.read? w = some t ↔ s.Reaches w t := by
  refine ⟨Place.reaches_of_read?, fun h => ?_⟩
  induction h with
  | here => rfl
  | step _ ih => simpa [Place.read?] using ih

theorem Place.reaches_cons_iff {b : Option Char} {c : Char} {rest w : List Char} {t : Place} :
    Place.Reaches ⟨b, c :: rest⟩ w t ↔
      w = [] ∧ t = ⟨b, c :: rest⟩ ∨ ∃ w', w = c :: w' ∧ Place.Reaches ⟨some c, rest⟩ w' t := by
  constructor
  · intro h
    cases h with
    | here => exact .inl ⟨rfl, rfl⟩
    | step h => exact .inr ⟨_, rfl, h⟩
  · rintro (⟨rfl, rfl⟩ | ⟨w', rfl, h⟩)
    · exact .here _
    · exact .step h

/-! ### Readings by the form of the pattern -/

theorem Place.reaches_iff {b : Option Char} {ahead w : List Char} {u : Place} :
    Place.Reaches ⟨b, ahead⟩ w u ↔ ∃ rest, u = ⟨w.getLast?.or b, rest⟩ ∧ ahead = w ++ rest := by
  constructor
  · intro h
    induction w generalizing b ahead with
    | nil => cases h; exact ⟨ahead, rfl, rfl⟩
    | cons c w ih =>
      cases h with
      | step h =>
        obtain ⟨rest, rfl, rfl⟩ := ih h
        refine ⟨rest, ?_, rfl⟩
        cases w <;> simp [List.getLast?_cons]
  · rintro ⟨rest, rfl, rfl⟩
    induction w generalizing b with
    | nil => exact .here _
    | cons c w ih =>
      have h := ih (b := some c)
      cases w with
      | nil => exact .step h
      | cons d w => exact .step (by simpa [List.getLast?_cons] using h)

section

variable {p q : Pattern} {b : Option Char} {ahead : List Char} {s u : Place} {r : Reading}

theorem Pattern.reads_nothing_iff : Pattern.nothing.Reads s r u ↔ r = .plain [] ∧ u = s := by
  constructor
  · intro h; cases h; exact ⟨rfl, rfl⟩
  · rintro ⟨rfl, rfl⟩; exact .nothing

theorem Pattern.reads_text_iff {w : List Char} :
    (Pattern.text w).Reads ⟨b, ahead⟩ r u ↔
      r = .plain w ∧ ∃ rest, u = ⟨w.getLast?.or b, rest⟩ ∧ ahead = w ++ rest := by
  rw [← Place.reaches_iff]
  constructor
  · intro h; cases h with | text h => exact ⟨rfl, h⟩
  · rintro ⟨rfl, h⟩; exact .text h

theorem Pattern.reads_one_iff {k : CharClass} :
    (Pattern.one k).Reads ⟨b, ahead⟩ r u ↔
      ∃ c, r = .plain [c] ∧ ∃ rest, u = ⟨some c, rest⟩ ∧ k.has c = true ∧ ahead = c :: rest := by
  constructor
  · intro h
    cases h with
    | one hc h =>
      obtain ⟨rest, rfl, rfl⟩ := Place.reaches_iff.mp h
      exact ⟨_, rfl, rest, rfl, hc, rfl⟩
  · rintro ⟨c, rfl, rest, rfl, hc, rfl⟩
    exact .one hc (.step (.here _))

theorem Pattern.reads_run_iff {k : CharClass} {least : Nat} {wish : Preference} :
    (Pattern.run k least wish).Reads ⟨b, ahead⟩ r u ↔
      ∃ w, r = .plain w ∧ ∃ rest, u = ⟨w.getLast?.or b, rest⟩ ∧
        (∀ c ∈ w, k.has c = true) ∧ least ≤ w.length ∧ ahead = w ++ rest := by
  constructor
  · intro h
    cases h with
    | run hall hle h =>
      obtain ⟨rest, rfl, rfl⟩ := Place.reaches_iff.mp h
      exact ⟨_, rfl, rest, rfl, hall, hle, rfl⟩
  · rintro ⟨w, rfl, rest, rfl, hall, hle, rfl⟩
    exact .run hall hle (Place.reaches_iff.mpr ⟨rest, rfl, rfl⟩)

theorem Pattern.reads_maybe_iff :
    (Pattern.maybe p).Reads s r u ↔
      r = .absent ∧ u = s ∨ ∃ r', r = .present r' ∧ p.Reads s r' u := by
  constructor
  · intro h
    cases h with
    | absent => exact .inl ⟨rfl, rfl⟩
    | present h => exact .inr ⟨_, rfl, h⟩
  · rintro (⟨rfl, rfl⟩ | ⟨r', rfl, h⟩)
    · exact .absent
    · exact .present h

theorem Pattern.reads_either_iff :
    (Pattern.either p q).Reads s r u ↔
      (∃ r', r = .left r' ∧ p.Reads s r' u) ∨ ∃ r', r = .right r' ∧ q.Reads s r' u := by
  constructor
  · intro h
    cases h with
    | left h => exact .inl ⟨_, rfl, h⟩
    | right h => exact .inr ⟨_, rfl, h⟩
  · rintro (⟨r', rfl, h⟩ | ⟨r', rfl, h⟩)
    · exact .left h
    · exact .right h

theorem Pattern.reads_seq_iff :
    (Pattern.seq p q).Reads s r u ↔
      ∃ r₁ t, p.Reads s r₁ t ∧ ∃ r₂, q.Reads t r₂ u ∧ r = .pair r₁ r₂ := by
  constructor
  · intro h; cases h with | seq h h' => exact ⟨_, _, h, _, h', rfl⟩
  · rintro ⟨_, _, h, _, h', rfl⟩; exact .seq h h'

end

/-! ### The listed ends are those of the readings -/

/-- The places that a run can reach, with what is read up to each: the place at index `i` lies behind
`i` characters. -/
structure Place.RunList (k : CharClass) (s : Place) (l : List (List Char × Place)) : Prop where
  mem_iff : ∀ w t, (w, t) ∈ l ↔ s.Reaches w t ∧ ∀ c ∈ w, k.has c = true
  length_eq : ∀ i (h : i < l.length), (l[i]).1.length = i

namespace Place.RunList

variable {k : CharClass} {b : Option Char} {ahead : List Char} {s : Place}
  {l : List (List Char × Place)}

/-- A run that goes no further than its start. -/
theorem here (h : ∀ c ∈ ahead.head?, k.has c = false) : RunList k ⟨b, ahead⟩ [([], ⟨b, ahead⟩)] := by
  refine ⟨fun w t => ?_, fun i h => ?_⟩
  · rw [List.mem_singleton]
    constructor
    · intro heq
      obtain ⟨rfl, rfl⟩ := Prod.mk.inj heq
      exact ⟨.here _, by simp⟩
    · rintro ⟨hr, hall⟩
      cases hr with
      | here => rfl
      | step _ =>
        have hc := h _ rfl
        rw [hall _ List.mem_cons_self] at hc
        cases hc
  · obtain rfl : i = 0 := by simpa using h
    rfl

/-- The places of the rest, each with the first character before what is read up to it. -/
theorem step {c : Char} (hc : k.has c = true) (hl : RunList k ⟨some c, ahead⟩ l) :
    RunList k ⟨b, c :: ahead⟩ (([], ⟨b, c :: ahead⟩) :: l.map fun x => (c :: x.1, x.2)) := by
  refine ⟨fun w t => ?_, fun i h => ?_⟩
  · rw [Place.reaches_cons_iff]
    constructor
    · intro h
      rcases List.mem_cons.mp h with h | h
      · obtain ⟨rfl, rfl⟩ := Prod.mk.inj h
        exact ⟨.inl ⟨rfl, rfl⟩, by simp⟩
      · obtain ⟨⟨w', t'⟩, hx, h⟩ := List.mem_map.mp h
        obtain ⟨rfl, rfl⟩ := Prod.mk.inj h
        obtain ⟨hr, hall⟩ := (hl.mem_iff w' t').mp hx
        exact ⟨.inr ⟨w', rfl, hr⟩, by simpa [hc] using hall⟩
    · rintro ⟨⟨rfl, rfl⟩ | ⟨w', rfl, hr⟩, hall⟩
      · exact List.mem_cons_self
      · refine List.mem_cons_of_mem _ (List.mem_map.mpr ⟨(w', t), (hl.mem_iff w' t).mpr ⟨hr, ?_⟩, rfl⟩)
        exact fun d hd => hall d (List.mem_cons_of_mem _ hd)
  · cases i with
    | zero => rfl
    | succ i => simpa using hl.length_eq i (by simpa using h)

/-- The first places are too near for a run that reads at least so many characters. -/
theorem mem_drop_iff (hl : RunList k s l) {least : Nat} {w : List Char} {t : Place} :
    (w, t) ∈ l.drop least ↔ (s.Reaches w t ∧ ∀ c ∈ w, k.has c = true) ∧ least ≤ w.length := by
  rw [← hl.mem_iff, List.mem_drop_iff_getElem, List.mem_iff_getElem]
  constructor
  · rintro ⟨i, hi, hx⟩
    have hlen := hl.length_eq (least + i) (by omega)
    rw [hx] at hlen
    exact ⟨⟨least + i, by omega, hx⟩, by simp only at hlen; omega⟩
  · rintro ⟨⟨i, hi, hx⟩, hle⟩
    have hlen := hl.length_eq i hi
    rw [hx] at hlen
    simp only at hlen
    exact ⟨i - least, by omega, by simpa [show least + (i - least) = i by omega] using hx⟩

/-- The list goes from the shortest reading to the longest. -/
theorem pairwise_drop (hl : RunList k s l) (least : Nat) :
    (l.drop least).Pairwise fun x y => x.1.length < y.1.length := by
  refine List.Pairwise.sublist (List.drop_sublist _ _) ?_
  rw [List.pairwise_iff_getElem]
  intro i j hi hj hij
  rw [hl.length_eq i hi, hl.length_eq j hj]
  exact hij

end Place.RunList

theorem Place.exists_along (k : CharClass) (b : Option Char) (ahead : List Char) :
    ∃ l, RunList k ⟨b, ahead⟩ l ∧ l.map Prod.snd = Place.along k b ahead := by
  induction ahead generalizing b with
  | nil => exact ⟨_, .here (by simp), rfl⟩
  | cons c rest ih =>
    obtain ⟨l, hl, hends⟩ := ih (some c)
    by_cases hc : k.has c = true
    · exact ⟨_, .step hc hl, by simp [Place.along, hc, ← hends]⟩
    · exact ⟨_, .here (by simpa using hc), by simp [Place.along, hc]⟩

/-- The list has every reading of the pattern at the place, with the place where it ends,
and a reading stands before those that it is preferred to. -/
structure Pattern.Lists (p : Pattern) (s : Place) (l : List (Reading × Place)) : Prop where
  mem_iff : ∀ r t, (r, t) ∈ l ↔ p.Reads s r t
  sorted : l.Pairwise fun x y => p.Prefers x.1 y.1

/-- Every reading of the first pattern with those of the second one behind it. -/
theorem Pattern.Lists.seq {p q : Pattern} {s : Place} {l : List (Reading × Place)}
    {lq : Place → List (Reading × Place)} (hl : p.Lists s l) (hq : ∀ u, q.Lists u (lq u)) :
    (Pattern.seq p q).Lists s
      (l.flatMap fun x => (lq x.2).map fun y => (.pair x.1 y.1, y.2)) := by
  refine ⟨fun r t => ?_, ?_⟩
  · rw [List.mem_flatMap]
    constructor
    · rintro ⟨⟨r₁, u⟩, hx, hy⟩
      obtain ⟨⟨r₂, t'⟩, hz, h⟩ := List.mem_map.mp hy
      obtain ⟨rfl, rfl⟩ := Prod.mk.inj h
      exact .seq ((hl.mem_iff _ _).mp hx) (((hq u).mem_iff _ _).mp hz)
    · intro h
      cases h with
      | seq h h' =>
        exact ⟨_, (hl.mem_iff _ _).mpr h, List.mem_map.mpr ⟨_, ((hq _).mem_iff _ _).mpr h', rfl⟩⟩
  · rw [List.pairwise_flatMap]
    constructor
    · intro x _
      exact List.pairwise_map.mpr ((hq x.2).sorted.imp fun h => .second h)
    · refine hl.sorted.imp fun h y hy z hz => ?_
      obtain ⟨y', -, rfl⟩ := List.mem_map.mp hy
      obtain ⟨z', -, rfl⟩ := List.mem_map.mp hz
      exact .first h

/-- The first reading of the list is the one that is preferred to all others. -/
theorem Pattern.Lists.head?_eq_some_iff {p : Pattern} {s t : Place} {l : List (Reading × Place)}
    {r : Reading} (hl : p.Lists s l) :
    l.head? = some (r, t) ↔
      p.Reads s r t ∧ ∀ r' t', p.Reads s r' t' → r' = r ∨ p.Prefers r r' := by
  have hsorted := hl.sorted
  constructor
  · intro h
    obtain ⟨rest, rfl⟩ := List.head?_eq_some_iff.mp h
    refine ⟨(hl.mem_iff r t).mp List.mem_cons_self, fun r' t' h' => ?_⟩
    rcases List.mem_cons.mp ((hl.mem_iff r' t').mpr h') with h | h
    · exact .inl (Prod.mk.inj h).1
    · exact .inr ((List.pairwise_cons.mp hsorted).1 _ h)
  · rintro ⟨hr, hbest⟩
    have hmem := (hl.mem_iff r t).mpr hr
    -- the reading is in the list, and no other one can stand before it
    cases l with
    | nil => exact absurd hmem List.not_mem_nil
    | cons x rest =>
      obtain ⟨r₀, t₀⟩ := x
      have h₀ := (hl.mem_iff r₀ t₀).mp List.mem_cons_self
      rcases List.mem_cons.mp hmem with h | h
      · rw [h]; rfl
      · have hpref := (List.pairwise_cons.mp hsorted).1 _ h
        rcases hbest r₀ t₀ h₀ with rfl | h'
        · exact absurd rfl hpref.ne
        · exact absurd h' hpref.asymm

/-- The reading of a run, with its end. -/
def Pattern.ofRun (x : List Char × Place) : Reading × Place := (.plain x.1, x.2)

theorem Pattern.exists_listed_run (k : CharClass) (least : Nat) (wish : Preference) (s : Place) :
    ∃ l, (Pattern.run k least wish).Lists s l ∧
      l.map Prod.snd = (Pattern.run k least wish).ends s := by
  obtain ⟨l, hl, hends⟩ := Place.exists_along k s.before s.ahead
  have hlt := hl.pairwise_drop least
  have hreads : ∀ r t, (r, t) ∈ (l.drop least).map ofRun ↔
      (Pattern.run k least wish).Reads s r t := by
    intro r t
    rw [List.mem_map]
    constructor
    · rintro ⟨⟨w, t'⟩, hx, h⟩
      obtain ⟨rfl, rfl⟩ := Prod.mk.inj h
      obtain ⟨⟨hr, hall⟩, hle⟩ := hl.mem_drop_iff.mp hx
      exact .run hall hle hr
    · intro h
      cases h with
      | run hall hle hr => exact ⟨(_, t), hl.mem_drop_iff.mpr ⟨⟨hr, hall⟩, hle⟩, rfl⟩
  have hsnd : ((l.drop least).map ofRun).map Prod.snd =
      (Place.along k s.before s.ahead).drop least := by
    rw [List.map_map, ← hends, ← List.map_drop]
    rfl
  -- `most` wants the readings from the longest to the shortest
  cases wish with
  | most =>
    refine ⟨((l.drop least).map ofRun).reverse, ⟨fun r t => ?_, ?_⟩, ?_⟩
    · rw [List.mem_reverse, hreads]
    · rw [List.pairwise_reverse, List.pairwise_map]
      exact hlt.imp fun h => .most h
    · rw [List.map_reverse, hsnd]
      rfl
  | fewest =>
    refine ⟨(l.drop least).map ofRun, ⟨hreads, ?_⟩, hsnd⟩
    rw [List.pairwise_map]
    exact hlt.imp fun h => .fewest h

theorem Place.atLineStart_iff {s : Place} :
    s.atLineStart = true ↔ s.before = none ∨ s.before = some '\n' := by
  obtain ⟨b, ahead⟩ := s
  cases b <;> simp [Place.atLineStart]

theorem Place.atWordEdge_iff {s : Place} :
    s.atWordEdge = true ↔ ((∃ c, s.before = some c ∧ isWord c = true) ↔
      ¬ ∃ c, s.ahead.head? = some c ∧ isWord c = true) := by
  have hany : ∀ o : Option Char,
      o.any isWord = true ↔ ∃ c, o = some c ∧ isWord c = true := fun o => by cases o <;> simp
  rw [← hany, ← hany, Place.atWordEdge]
  cases s.before.any isWord <;> cases s.ahead.head?.any isWord <;> decide

theorem Pattern.reads_lineStart_iff {s u : Place} {r : Reading} :
    Pattern.lineStart.Reads s r u ↔ r = .plain [] ∧ u = s ∧ s.atLineStart = true := by
  constructor
  · intro h; cases h with | lineStart h => exact ⟨rfl, rfl, Place.atLineStart_iff.mpr h⟩
  · rintro ⟨rfl, rfl, h⟩; exact .lineStart (Place.atLineStart_iff.mp h)

theorem Pattern.reads_wordEdge_iff {s u : Place} {r : Reading} :
    Pattern.wordEdge.Reads s r u ↔ r = .plain [] ∧ u = s ∧ s.atWordEdge = true := by
  constructor
  · intro h; cases h with | wordEdge h => exact ⟨rfl, rfl, Place.atWordEdge_iff.mpr h⟩
  · rintro ⟨rfl, rfl, h⟩; exact .wordEdge (Place.atWordEdge_iff.mp h)

/-! ### The list of a pattern from those of its parts -/

section

variable {p q : Pattern} {s : Place} {l l' : List (Reading × Place)}

/-- A pattern that only looks around lists the place itself, or nothing. -/
theorem Pattern.exists_listed_of_look {b : Bool}
    (hreads : ∀ r t, p.Reads s r t ↔ r = .plain [] ∧ t = s ∧ b = true)
    (hends : p.ends s = if b then [s] else []) : ∃ l, p.Lists s l ∧ l.map Prod.snd = p.ends s := by
  rw [hends]
  cases b with
  | false => exact ⟨[], ⟨fun r t => by simp [hreads], .nil⟩, rfl⟩
  | true =>
    refine ⟨[(.plain [], s)], ⟨fun r t => ?_, List.pairwise_singleton _ _⟩, rfl⟩
    rw [List.mem_singleton, hreads, Prod.mk.injEq]
    simp

theorem Pattern.exists_listed_text (w : List Char) (s : Place) :
    ∃ l, (Pattern.text w).Lists s l ∧ l.map Prod.snd = (Pattern.text w).ends s := by
  cases ht : s.read? w with
  | none =>
    refine ⟨[], ⟨fun r t => ⟨fun h => absurd h List.not_mem_nil, fun h => ?_⟩, .nil⟩, ?_⟩
    · cases h with
      | text h => rw [Place.read?_eq_some_iff.mpr h] at ht; cases ht
    · simp [ends, ht]
  | some t =>
    have ht' := Place.read?_eq_some_iff.mp ht
    refine ⟨[(.plain w, t)], ⟨fun r u => ?_, List.pairwise_singleton _ _⟩, ?_⟩
    · rw [List.mem_singleton]
      constructor
      · rintro ⟨⟩; exact .text ht'
      · intro h
        cases h with
        | text h => rw [h.unique ht']
    · simp [ends, ht]

theorem Pattern.exists_listed_one (k : CharClass) (s : Place) :
    ∃ l, (Pattern.one k).Lists s l ∧ l.map Prod.snd = (Pattern.one k).ends s := by
  obtain ⟨b, ahead⟩ := s
  have hnone : (∀ c rest, ahead = c :: rest → k.has c = false) →
      (Pattern.one k).Lists ⟨b, ahead⟩ [] := by
    refine fun hno => ⟨fun r t => ⟨fun h => absurd h List.not_mem_nil, fun h => ?_⟩, .nil⟩
    cases h with
    | one hc h => rw [hno _ _ h.ahead_eq] at hc; cases hc
  cases ahead with
  | nil => exact ⟨[], hnone (by simp), rfl⟩
  | cons c rest =>
    by_cases hc : k.has c = true
    · refine ⟨[(.plain [c], ⟨some c, rest⟩)], ⟨fun r t => ?_, List.pairwise_singleton _ _⟩, ?_⟩
      · rw [List.mem_singleton]
        constructor
        · rintro ⟨⟩; exact .one hc (.step (.here _))
        · intro h
          cases h with
          | one _ h =>
            cases h with
            | step h => cases h; rfl
      · simp [ends, hc]
    · refine ⟨[], hnone ?_, by simp [ends, hc]⟩
      rintro d rest' ⟨⟩
      simpa using hc

/-- The readings of the pattern, and behind them the one that leaves it out. -/
theorem Pattern.Lists.maybe (hl : p.Lists s l) :
    (Pattern.maybe p).Lists s (l.map (fun x => (.present x.1, x.2)) ++ [(.absent, s)]) := by
  refine ⟨fun r t => ?_, ?_⟩
  · rw [List.mem_append, List.mem_map, List.mem_singleton]
    constructor
    · rintro (⟨⟨r', t'⟩, hx, h⟩ | h)
      · obtain ⟨rfl, rfl⟩ := Prod.mk.inj h
        exact .present ((hl.mem_iff _ _).mp hx)
      · obtain ⟨rfl, rfl⟩ := Prod.mk.inj h
        exact .absent
    · intro h
      cases h with
      | absent => exact .inr rfl
      | present h => exact .inl ⟨_, (hl.mem_iff _ _).mpr h, rfl⟩
  · refine List.pairwise_append.mpr ⟨?_, List.pairwise_singleton _ _, ?_⟩
    · exact List.pairwise_map.mpr (hl.sorted.imp fun h => .inPresent h)
    · intro x hx y hy
      obtain ⟨x', -, rfl⟩ := List.mem_map.mp hx
      obtain rfl := List.mem_singleton.mp hy
      exact .present

/-- The readings of the first pattern, and behind them those of the second one. -/
theorem Pattern.Lists.either (hl : p.Lists s l) (hl' : q.Lists s l') :
    (Pattern.either p q).Lists s
      (l.map (fun x => (.left x.1, x.2)) ++ l'.map (fun x => (.right x.1, x.2))) := by
  refine ⟨fun r t => ?_, ?_⟩
  · rw [List.mem_append, List.mem_map, List.mem_map]
    constructor
    · rintro (⟨⟨r', t'⟩, hx, h⟩ | ⟨⟨r', t'⟩, hx, h⟩)
      · obtain ⟨rfl, rfl⟩ := Prod.mk.inj h
        exact .left ((hl.mem_iff _ _).mp hx)
      · obtain ⟨rfl, rfl⟩ := Prod.mk.inj h
        exact .right ((hl'.mem_iff _ _).mp hx)
    · intro h
      cases h with
      | left h => exact .inl ⟨_, (hl.mem_iff _ _).mpr h, rfl⟩
      | right h => exact .inr ⟨_, (hl'.mem_iff _ _).mpr h, rfl⟩
  · refine List.pairwise_append.mpr ⟨?_, ?_, ?_⟩
    · exact List.pairwise_map.mpr (hl.sorted.imp fun h => .inLeft h)
    · exact List.pairwise_map.mpr (hl'.sorted.imp fun h => .inRight h)
    · intro x hx y hy
      obtain ⟨x', -, rfl⟩ := List.mem_map.mp hx
      obtain ⟨y', -, rfl⟩ := List.mem_map.mp hy
      exact .left

end

/-- The ends of a pattern are those of its readings, the preferred reading first. -/
theorem Pattern.exists_listed (p : Pattern) (s : Place) :
    ∃ l, p.Lists s l ∧ l.map Prod.snd = p.ends s := by
  induction p generalizing s with
  | nothing => exact exists_listed_of_look (b := true) (fun r t => by simp [reads_nothing_iff]) rfl
  | text w => exact exists_listed_text w s
  | one k => exact exists_listed_one k s
  | run k least wish => exact exists_listed_run k least wish s
  | maybe p ih =>
    obtain ⟨l, hl, hends⟩ := ih s
    refine ⟨_, hl.maybe, ?_⟩
    simp [ends, ← hends, Function.comp_def]
  | either p q ihp ihq =>
    obtain ⟨l, hl, hends⟩ := ihp s
    obtain ⟨l', hl', hends'⟩ := ihq s
    refine ⟨_, hl.either hl', ?_⟩
    simp [ends, ← hends, ← hends', Function.comp_def]
  | seq p q ihp ihq =>
    -- the second pattern has a list for each end of the first one
    obtain ⟨l, hl, hends⟩ := ihp s
    choose lq hlq hendsq using ihq
    refine ⟨_, hl.seq hlq, ?_⟩
    simp [ends, ← hends, ← hendsq, List.map_flatMap, List.flatMap_map, Function.comp_def]
  | lineStart => exact exists_listed_of_look (fun r t => reads_lineStart_iff) rfl
  | wordEdge => exact exists_listed_of_look (fun r t => reads_wordEdge_iff) rfl

end HaxeTypedefs
