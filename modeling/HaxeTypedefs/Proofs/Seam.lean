/-
Where a line ends, a text falls apart.

Behind one of a few characters no match reads on over a line feed.  What lies on
both sides of such a line feed is rewritten as if the other side were not there,
by one substitution and, as the text before the line feed goes on to end with one
of these characters, by the whole run.

* **`Target.pieces_append_lineFeed`** — a search falls apart where it stops;
* **`Target.stops_of_joins`** — a target stops where it brings no line feed behind the
  last character;
* **`Rule.partAll_of_getLast?`** — so does every rule of a run, on what the rules before it have
  left;
* **`Run.of_append`** — a run over two texts put together behind `;` and a line feed.
-/
import HaxeTypedefs.Proofs.Matches
import HaxeTypedefs.Run

namespace HaxeTypedefs

/-! ### What a reading does not look at -/

theorem Place.Reaches.with_rest {s u : Place} {w : List Char} (h : s.Reaches w u)
    (y : List Char) : Place.Reaches ⟨s.before, w ++ y⟩ w ⟨u.before, y⟩ := by
  obtain ⟨rest, rfl, -⟩ := Place.reaches_iff.mp h
  exact Place.reaches_iff.mpr ⟨y, rfl, rfl⟩

/-- Of what lies ahead of its end, a reading sees at most whether it begins with a word
character. -/
theorem Pattern.Reads.with_rest {p : Pattern} {s u : Place} {r : Reading} (h : p.Reads s r u)
    {y : List Char} (hy : y.head?.any isWord = u.ahead.head?.any isWord) :
    p.Reads ⟨s.before, r.text ++ y⟩ r ⟨u.before, y⟩ := by
  induction h generalizing y with
  | nothing => exact .nothing
  | text h => exact .text (h.with_rest y)
  | one hc h => exact .one hc (h.with_rest y)
  | run hall hle h => exact .run hall hle (h.with_rest y)
  | absent => exact .absent
  | present _ ih => exact .present (ih hy)
  | left _ ih => exact .left (ih hy)
  | right _ ih => exact .right (ih hy)
  | @seq p q s t u r r' h h' ih ih' =>
    -- what the first part sees of the rest is at most the start of the second
    have hmid : (r'.text ++ y).head?.any isWord = t.ahead.head?.any isWord := by
      rw [h'.reaches.ahead_eq]
      cases r'.text with
      | nil => exact hy
      | cons c w => rfl
    have hp := ih hmid
    rw [← List.append_assoc] at hp
    exact .seq hp (ih' hy)
  | lineStart hs => exact .lineStart hs
  | @wordEdge s hs =>
    have hedge : s.atWordEdge = true := Place.atWordEdge_iff.mpr hs
    refine .wordEdge (Place.atWordEdge_iff.mp ?_)
    rw [Place.atWordEdge] at hedge ⊢
    rw [← hedge]
    exact congrArg (s.before.any isWord != ·) hy

/-- The places have the same text ahead, and no pattern can tell what lies behind them. -/
structure Place.Alike (s s' : Place) : Prop where
  ahead_eq : s.ahead = s'.ahead
  atLineStart_eq : s.atLineStart = s'.atLineStart
  any_isWord_eq : s.before.any isWord = s'.before.any isWord

theorem Place.Alike.symm {s s' : Place} (h : s.Alike s') : s'.Alike s :=
  ⟨h.1.symm, h.2.symm, h.3.symm⟩

theorem Place.Reaches.exists_of_alike {s s' u : Place} {w : List Char} (h : s.Reaches w u)
    (hs : s.Alike s') : ∃ u', s'.Reaches w u' ∧ u.Alike u' := by
  obtain ⟨rest, rfl, hahead⟩ := Place.reaches_iff.mp h
  refine ⟨⟨w.getLast?.or s'.before, rest⟩, ?_, ?_⟩
  · exact Place.reaches_iff.mpr ⟨rest, rfl, hs.ahead_eq ▸ hahead⟩
  · cases hw : w.getLast? with
    | none => exact ⟨rfl, hs.atLineStart_eq, hs.any_isWord_eq⟩
    | some c => exact ⟨rfl, rfl, rfl⟩

theorem Pattern.Reads.exists_of_alike {p : Pattern} {s s' u : Place} {r : Reading}
    (h : p.Reads s r u) (hs : s.Alike s') : ∃ u', p.Reads s' r u' ∧ u.Alike u' := by
  induction h generalizing s' with
  | nothing => exact ⟨s', .nothing, hs⟩
  | text h =>
    obtain ⟨u', h', hu⟩ := h.exists_of_alike hs
    exact ⟨u', .text h', hu⟩
  | one hc h =>
    obtain ⟨u', h', hu⟩ := h.exists_of_alike hs
    exact ⟨u', .one hc h', hu⟩
  | run hall hle h =>
    obtain ⟨u', h', hu⟩ := h.exists_of_alike hs
    exact ⟨u', .run hall hle h', hu⟩
  | absent => exact ⟨s', .absent, hs⟩
  | present _ ih =>
    obtain ⟨u', h', hu⟩ := ih hs
    exact ⟨u', .present h', hu⟩
  | left _ ih =>
    obtain ⟨u', h', hu⟩ := ih hs
    exact ⟨u', .left h', hu⟩
  | right _ ih =>
    obtain ⟨u', h', hu⟩ := ih hs
    exact ⟨u', .right h', hu⟩
  | seq _ _ ih ih' =>
    obtain ⟨t', h, ht⟩ := ih hs
    obtain ⟨u', h', hu⟩ := ih' ht
    exact ⟨u', .seq h h', hu⟩
  | lineStart h =>
    refine ⟨s', .lineStart (Place.atLineStart_iff.mp ?_), hs⟩
    rw [← hs.atLineStart_eq]
    exact Place.atLineStart_iff.mpr h
  | wordEdge h =>
    refine ⟨s', .wordEdge (Place.atWordEdge_iff.mp ?_), hs⟩
    rw [← Place.atWordEdge_iff.mpr h, Place.atWordEdge, Place.atWordEdge, hs.ahead_eq,
      hs.any_isWord_eq]

section

variable {p : Pattern} {b : Option Char} {y z z' : List Char} {r : Reading} {u : Place} {c : Char}

theorem head?_any_isWord_of_lineFeed (hz : ∀ d ∈ z.head?, d = '\n') :
    z.head?.any isWord = false := by
  cases z with
  | nil => rfl
  | cons d z =>
    obtain rfl := hz d rfl
    show isWord '\n' = false
    decide

/-- A reading that begins in a line stays in it, if it brings no line feed behind the last
character. -/
theorem Pattern.Reads.exists_of_joins (h : p.Reads ⟨b, y ++ z⟩ r u)
    (hlast : y.getLast? = some c) (hjoins : p.joins c '\n' = false) (hz : ∀ d ∈ z.head?, d = '\n') :
    ∃ v, y = r.text ++ v ∧ u.ahead = v ++ z := by
  have hahead : y ++ z = r.text ++ u.ahead := h.reaches.ahead_eq
  rcases List.append_eq_append_iff.mp hahead with ⟨v, hv, hzv⟩ | ⟨v, hyv, hv⟩
  · cases v with
    | nil => exact ⟨[], by simpa using hv.symm, by simpa using hzv.symm⟩
    | cons d v =>
      -- the reading goes on with the line feed
      obtain rfl : d = '\n' := hz d (by simp [hzv])
      have hpair : [c, '\n'] <:+: r.text := by
        rw [hv, pair_infix_append_iff]
        exact .inr (.inr ⟨hlast, rfl⟩)
      rw [h.joins_of_infix hpair] at hjoins
      cases hjoins
  · exact ⟨v, hyv, hv⟩

/-- Such a reading does not see what stands behind the line. -/
theorem Pattern.Reads.exists_behind (h : p.Reads ⟨b, y ++ z⟩ r u)
    (hlast : y.getLast? = some c) (hjoins : p.joins c '\n' = false) (hz : ∀ d ∈ z.head?, d = '\n')
    (hz' : ∀ d ∈ z'.head?, d = '\n') : ∃ u', p.Reads ⟨b, y ++ z'⟩ r u' := by
  obtain ⟨v, rfl, hu⟩ := h.exists_of_joins hlast hjoins hz
  have hsame : (v ++ z').head?.any isWord = u.ahead.head?.any isWord := by
    rw [hu]
    cases v with
    | nil => exact (head?_any_isWord_of_lineFeed hz').trans (head?_any_isWord_of_lineFeed hz).symm
    | cons d v => rfl
  have hr := h.with_rest hsame
  rw [← List.append_assoc] at hr
  exact ⟨_, hr⟩

end

namespace Target

variable {t : Target} {s s' : Place}

theorem matchAt_congr (h : ∀ m, t.Chooses s m ↔ t.Chooses s' m) : t.matchAt s = t.matchAt s' := by
  refine Option.ext fun m => ?_
  rw [matchAt_eq_some_iff, matchAt_eq_some_iff, h]

theorem chooses_congr (h : ∀ r, t.Reads s r ↔ t.Reads s' r) {m : Match} :
    t.Chooses s m ↔ t.Chooses s' m := by
  simp only [Chooses, h]

theorem matchAt_eq_of_alike (h : s.Alike s') : t.matchAt s = t.matchAt s' := by
  have hreads : ∀ {s s' : Place} {r : Reading}, s.Alike s' → t.Reads s r → t.Reads s' r := by
    rintro s s' r h ⟨u, hr⟩
    obtain ⟨u', hr', -⟩ := hr.exists_of_alike h
    exact ⟨u', hr'⟩
  exact matchAt_congr fun m => chooses_congr fun r => ⟨hreads h, hreads h.symm⟩

/-- What begins a text and what begins a line is searched alike. -/
theorem piecesFrom_lineFeed (text : List Char) :
    t.piecesFrom 0 (some '\n') text = t.pieces text := by
  cases text with
  | nil => rfl
  | cons c rest =>
    have halike : Place.Alike ⟨some '\n', c :: rest⟩ ⟨none, c :: rest⟩ := by
      refine ⟨rfl, rfl, ?_⟩
      show isWord '\n' = false
      decide
    rw [pieces, piecesFrom, piecesFrom, matchAt_eq_of_alike halike]

/-! ### Searches that fall apart -/

/-- A text without the character lies before it. -/
theorem exists_of_append_eq_of_not_mem {c : Char} {x y z w : List Char}
    (h : y ++ c :: z = x ++ w) (hx : c ∉ x) : ∃ v, y = x ++ v ∧ w = v ++ c :: z := by
  rcases List.append_eq_append_iff.mp h with ⟨v, rfl, hv⟩ | ⟨v, rfl, hv⟩
  · cases v with
    | nil => exact ⟨[], by simp, hv.symm⟩
    | cons d v =>
      obtain ⟨rfl, -⟩ := List.cons.inj hv
      exact absurd (by simp) hx
  · exact ⟨v, rfl, hv⟩

/-- A line feed behind the text, and what follows it, changes no match in the text, and no match
begins with the line feed. -/
structure Stops (t : Target) (text : List Char) : Prop where
  matchAt_append : ∀ x y rest, text = x ++ y → y ≠ [] →
    t.matchAt (.between x (y ++ '\n' :: rest)) = t.matchAt (.between x y)
  matchAt_lineFeed : ∀ rest, t.matchAt (.between text ('\n' :: rest)) = none

theorem piecesFrom_append (behind text ahead : List Char)
    (h : ∀ x y, text = x ++ y → y ≠ [] → t.matchAt (.between (behind ++ x) (y ++ ahead)) =
      t.matchAt (.between (behind ++ x) y)) :
    t.piecesFrom 0 behind.getLast? (text ++ ahead) =
      t.piecesFrom 0 behind.getLast? text ++ t.piecesFrom 0 (behind ++ text).getLast? ahead := by
  -- by the length of the text: a match takes away at least one character
  induction hn : text.length using Nat.strongRecOn generalizing behind text with
  | ind n ih =>
    cases text with
    | nil => simp [piecesFrom]
    | cons c rest =>
      have hhere : t.matchAt (.between behind (c :: rest ++ ahead)) =
          t.matchAt (.between behind (c :: rest)) := by
        simpa using h [] (c :: rest) rfl (by simp)
      cases hm : t.matchAt (.between behind (c :: rest)) with
      | none =>
        have htail := ih rest.length (by rw [← hn]; exact Nat.lt_succ_self _) (behind ++ [c]) rest
          (fun x y hxy hy => by simpa using h (c :: x) y (by simp [hxy]) hy) rfl
        rw [List.getLast?_concat, List.append_assoc, List.singleton_append] at htail
        have hsplit : t.matchAt ⟨behind.getLast?, c :: (rest ++ ahead)⟩ = none := hhere.trans hm
        have halone : t.matchAt ⟨behind.getLast?, c :: rest⟩ = none := hm
        simp only [List.cons_append, piecesFrom, hsplit, halone, htail]
      | some m =>
        obtain ⟨hne, u, hu⟩ := exists_of_matchAt hm
        obtain ⟨y, rfl, hy⟩ := Place.reaches_iff.mp hu
        have hlt : y.length < n := by
          have := List.length_pos_iff.mpr hne
          rw [← hn, hy, List.length_append]
          omega
        have htail := ih y.length hlt (behind ++ m.text) y
          (fun x z hxz hz => by
            simpa using h (m.text ++ x) z (by rw [hy, hxz, List.append_assoc]) hz) rfl
        rw [hy] at hm hhere ⊢
        have halone := piecesFrom_of_matchAt hm (Place.reaches_between behind m.text y)
        rw [hm, List.append_assoc] at hhere
        have hsplit := piecesFrom_of_matchAt hhere
          (Place.reaches_between behind m.text (y ++ ahead))
        calc t.piecesFrom 0 behind.getLast? (m.text ++ y ++ ahead)
            = .found m :: t.piecesFrom 0 (behind ++ m.text).getLast? (y ++ ahead) := by
              rw [List.append_assoc]
              exact hsplit
          _ = .found m :: (t.piecesFrom 0 (behind ++ m.text).getLast? y ++
                t.piecesFrom 0 (behind ++ (m.text ++ y)).getLast? ahead) := by
              rw [htail, List.append_assoc]
          _ = t.piecesFrom 0 behind.getLast? (m.text ++ y) ++
                t.piecesFrom 0 (behind ++ (m.text ++ y)).getLast? ahead := by
              rw [← List.cons_append]
              exact congrArg (· ++ _) halone.symm

/-- Where a target stops, the texts before and behind the line feed are searched on their own. -/
theorem pieces_append_lineFeed {text : List Char} (h : t.Stops text) (rest : List Char) :
    t.pieces (text ++ '\n' :: rest) = t.pieces text ++ .passed '\n' :: t.pieces rest := by
  have hleft := piecesFrom_append (t := t) [] text ('\n' :: rest)
    fun x y hxy hy => h.matchAt_append x y rest hxy hy
  have hfeed : t.matchAt ⟨text.getLast?, '\n' :: rest⟩ = none := h.matchAt_lineFeed rest
  calc t.pieces (text ++ '\n' :: rest)
      = t.pieces text ++ t.piecesFrom 0 text.getLast? ('\n' :: rest) := hleft
    _ = t.pieces text ++ .passed '\n' :: t.pieces rest := by
      simp only [piecesFrom, hfeed, piecesFrom_lineFeed]

/-- A target stops behind a character that it brings no line feed behind, unless it can begin with
the line feed. -/
theorem stops_of_joins {text : List Char} {c : Char} (ht : t.Solid)
    (hlast : text.getLast? = some c) (hc : c ≠ '\n') (hjoins : t.whole.joins c '\n' = false)
    (hbegins : t.whole.anchored = true ∨ t.whole.begins '\n' = false) : t.Stops text := by
  constructor
  · intro x y rest htext hy
    rw [htext, List.getLast?_append_of_ne_nil _ hy] at hlast
    refine matchAt_congr fun m => chooses_congr fun r => ⟨?_, ?_⟩
    · rintro ⟨u, hr⟩
      have halone : ∃ u', t.whole.Reads ⟨x.getLast?, y ++ []⟩ r u' :=
        hr.exists_behind hlast hjoins (by simp) (by simp)
      rwa [List.append_nil] at halone
    · rintro ⟨u, hr⟩
      rw [← List.append_nil y] at hr
      exact hr.exists_behind hlast hjoins (by simp) (by simp)
  · intro rest
    rw [matchAt_eq_none_iff ht, Place.between, hlast]
    exact not_matches_of_behind ht hc hbegins rest

/-- What a union over several lines has up to its first `|` has none of the characters that a line
ends with. -/
theorem not_mem_of_line_end {c : Char} (hc : c ∈ [';', ',', '{']) {bl bl' : List Char}
    (hbl : ∀ d ∈ bl, isBlank d = true) (hbl' : ∀ d ∈ bl', isBlank d = true) :
    c ∉ "Node =".toList ++ (bl ++ ("\n".toList ++ (bl' ++ "|".toList))) := by
  have hends : ∀ c ∈ [';', ',', '{'], isBlank c = false ∧ c ∉ "Node =".toList ∧ c ∉ "\n".toList ∧
      c ∉ "|".toList := by
    decide
  obtain ⟨hblank, hname, hfeed, hbar⟩ := hends c hc
  have hnot : ∀ {w : List Char}, (∀ d ∈ w, isBlank d = true) → c ∉ w := by
    intro w hw hmem
    rw [hw c hmem] at hblank
    cases hblank
  simp only [List.mem_append, not_or]
  exact ⟨hname, hnot hbl, hfeed, hnot hbl', hbar⟩

/-- A union that begins in a line which has no `|` behind a `=`, or ends with `;`, ends in the line. -/
theorem chooses_multiLineUnion_behind {x y z : List Char} {c : Char} {m : Match}
    (hc : c ∈ [';', ',', '{']) (hno : c = ';' ∨ '=' ∉ x ++ (y ++ [c]) ∨ '|' ∉ x ++ (y ++ [c]))
    (hm : multiLineUnion.Chooses (.between x (y ++ [c] ++ z)) m) (z' : List Char) :
    multiLineUnion.Chooses (.between x (y ++ [c] ++ z')) m := by
  obtain ⟨bl, bl', w, rest, h, hbl, hne, hbl', hw, rfl⟩ := chooses_multiLineUnion_iff.mp hm
  have hsplit : y ++ c :: z = ("Node =".toList ++ (bl ++ ("\n".toList ++ (bl' ++ "|".toList)))) ++
      (w ++ (";".toList ++ rest)) := by
    simpa using h
  -- the first `|` of the union stands before the end of the line, and so does its first `;`
  obtain ⟨v, rfl, hv⟩ := exists_of_append_eq_of_not_mem hsplit (not_mem_of_line_end hc hbl hbl')
  obtain rfl : c = ';' := by
    rcases hno with h | h | h
    · exact h
    · exact absurd (by simp) h
    · exact absurd (by simp) h
  obtain ⟨v', rfl, hv'⟩ := exists_of_append_eq_of_not_mem hv.symm hw
  obtain ⟨rest', hrest⟩ : ∃ rest', v' ++ ';' :: z' = ";".toList ++ rest' := by
    cases v' with
    | nil => exact ⟨z', rfl⟩
    | cons d v' =>
      obtain ⟨rfl, -⟩ := List.cons.inj hv'
      exact ⟨v' ++ ';' :: z', rfl⟩
  refine chooses_multiLineUnion_iff.mpr ⟨bl, bl', w, rest', ?_, hbl, hne, hbl', hw, rfl⟩
  rw [← hrest]
  simp

/-- The target that reads over line feeds stops all the same: behind `;`, since it reads up to the
first one, and where it finds no `=` or no `|`. -/
theorem stops_multiLineUnion {text : List Char} {c : Char} (hlast : text.getLast? = some c)
    (hc : c ∈ [';', ',', '{']) (hno : c = ';' ∨ '=' ∉ text ∨ '|' ∉ text) :
    multiLineUnion.Stops text := by
  constructor
  · intro x y rest htext hy
    obtain ⟨y, rfl⟩ : ∃ y', y = y' ++ [c] := by
      rw [htext, List.getLast?_append_of_ne_nil _ hy] at hlast
      exact List.getLast?_eq_some_iff.mp hlast
    rw [htext] at hno
    refine matchAt_congr fun m => ⟨fun hm => ?_, fun hm => ?_⟩
    · simpa using chooses_multiLineUnion_behind hc hno hm []
    · rw [← List.append_nil (y ++ [c])] at hm
      exact chooses_multiLineUnion_behind hc hno hm _
  · intro rest
    cases hm : multiLineUnion.matchAt (.between text ('\n' :: rest)) with
    | none => rfl
    | some m =>
      obtain ⟨_, _, _, _, h, -⟩ := chooses_multiLineUnion_iff.mp (matchAt_eq_some_iff.mp hm).1
      cases h

end Target

/-! ### Substitutions -/

/-- The characters that no text reads over together with a line feed behind. -/
def closing : List Char := [';', ',', '{', '/', '\'']

/-- What the replacement has of its own. -/
def Replacement.added : Replacement → List Char
  | literal text => text.toList
  | template opening closing => opening.toList ++ closing.toList
  | supersede block => "//  ".toList ++ " \n".toList ++ block.toList

namespace Substitution

variable {s : Substitution} {text : List Char}

theorem apply_append_lineFeed (h : s.target.Stops text) (rest : List Char) :
    s.apply (text ++ '\n' :: rest) = ⟨(s.apply text).text ++ '\n' :: (s.apply rest).text,
      (s.apply text).count + (s.apply rest).count⟩ := by
  simp [apply, Target.pieces_append_lineFeed h, renderPiece, Piece.isFound]

/-- A match at the end of a text that ends with one of the characters gives way to a text that
does so too. -/
def EndsIn (s : Substitution) (ends : List Char) : Prop :=
  ∀ place m c, s.target.Chooses place m → m.text.getLast? = some c → c ∈ ends →
    ∃ d ∈ ends, (s.replacement.render m).getLast? = some d

theorem endsIn_of_finishes {ends : List Char}
    (h : ∀ c ∈ ends, s.target.whole.finishes c = false) : s.EndsIn ends := by
  intro place m c hm hlast hc
  obtain ⟨r, u, hr, hrm, -⟩ := hm.exists_reads
  have := hr.finishes_of_getLast? (hrm ▸ hlast)
  rw [h c hc] at this
  cases this

theorem getLast?_rendered {ends : List Char} (hends : s.EndsIn ends) {behind gap : List Char}
    {ms : List (Match × List Char)} (h : s.target.Factors behind gap ms) {c : Char}
    (hlast : (spelled gap ms).getLast? = some c) (hc : c ∈ ends) :
    ∃ d ∈ ends, (s.rendered gap ms).getLast? = some d := by
  induction h with
  | last _ => exact ⟨c, hc, by simpa [rendered, spelled] using hlast⟩
  | @next behind gap gap' m ms _ hne hm hrest ih =>
    rw [spelled_cons, List.getLast?_append, List.getLast?_append] at hlast
    rw [rendered_cons, List.getLast?_append, List.getLast?_append]
    cases hl : (spelled gap' ms).getLast? with
    | some e =>
      have he : e = c := by simpa [hl] using hlast
      obtain ⟨d, hd, hdl⟩ := ih (he ▸ hl)
      exact ⟨d, hd, by simp [hdl]⟩
    | none =>
      -- the text ends with this match
      have hnil : gap' = [] ∧ ms = [] := by
        have h := List.getLast?_eq_none_iff.mp hl
        cases hrest with
        | last => simpa [spelled] using h
        | next _ hne' => simp [spelled, hne'] at h
      obtain ⟨rfl, rfl⟩ := hnil
      cases hml : m.text.getLast? with
      | none => exact absurd (List.getLast?_eq_none_iff.mp hml) hne
      | some e =>
        have he : e = c := by simpa [hl, hml] using hlast
        obtain ⟨d, hd, hdl⟩ := hends _ m c hm (he ▸ hml) hc
        exact ⟨d, hd, by simp [hdl, rendered]⟩

theorem getLast?_apply (hs : s.target.Solid) {ends : List Char} (hends : s.EndsIn ends) {c : Char}
    (hlast : text.getLast? = some c) (hc : c ∈ ends) :
    ∃ d ∈ ends, (s.apply text).text.getLast? = some d := by
  obtain ⟨gap, ms, rfl, h⟩ := Target.exists_factors hs [] text
  rw [apply_eq_of_factors hs h]
  exact getLast?_rendered hends h hlast hc

/-- A substitution leaves what it finds, and puts in what its replacement has. -/
theorem mem_apply (hs : s.target.Solid) {d : Char} (h : d ∈ (s.apply text).text) :
    d ∈ text ∨ d ∈ s.replacement.added := by
  have hrender : ∀ m : Match, d ∈ s.replacement.render m → d ∈ m.text ∨ d ∈ s.replacement.added := by
    intro m hd
    cases hr : s.replacement <;>
      simp only [hr, Replacement.render, Replacement.added, List.mem_append, Match.text] at hd ⊢ <;>
      tauto
  obtain ⟨gap, ms, rfl, hf⟩ := Target.exists_factors hs [] text
  rw [apply_eq_of_factors hs hf] at h
  rcases List.mem_append.mp h with h | h
  · exact .inl (List.mem_append_left _ h)
  · obtain ⟨⟨m, gap'⟩, hx, hd⟩ := List.mem_flatMap.mp h
    have hleft : ∀ {w}, d ∈ w → w <:+: m.text ++ gap' → d ∈ spelled gap ms := by
      intro w hw hinf
      exact List.mem_append_right _ (List.mem_flatMap.mpr ⟨_, hx, hinf.subset hw⟩)
    rcases List.mem_append.mp hd with hd | hd
    · rcases hrender m hd with hd | hd
      · exact .inl (hleft hd (List.prefix_append _ _).isInfix)
      · exact .inr hd
    · exact .inl (hleft hd (List.suffix_append _ _).isInfix)

end Substitution

/-! ### Rules -/

namespace Rule

theorem stops_of_mem {r : Rule} (hr : r ≠ multiLineUnion) {s : Substitution}
    (hs : s ∈ r.substitutions) {text : List Char} {c : Char} (hlast : text.getLast? = some c)
    (hc : c ∈ closing) : s.target.Stops text := by
  have key : ∀ r ∈ Rule.all, r ≠ multiLineUnion → ∀ s ∈ r.substitutions, ∀ c ∈ closing,
      c ≠ '\n' ∧ s.target.whole.joins c '\n' = false ∧
        (s.target.whole.anchored = true ∨ s.target.whole.begins '\n' = false) := by
    decide
  obtain ⟨hcn, hjoins, hbegins⟩ := key r r.mem_all hr s hs c hc
  exact Target.stops_of_joins (solid_of_mem hs) hlast hcn hjoins hbegins

/-- What a substitution puts in the place of a match at the end ends with one of the characters
again: the closing of a comment, or the last part of the match. -/
theorem endsIn_of_mem {r : Rule} (hr : r ≠ operationType) {s : Substitution}
    (hs : s ∈ r.substitutions) : s.EndsIn closing := by
  have hopen : ∀ {opening : String} {m : Match} {c : Char}, m.marked.getLast? = some c →
      ((Replacement.template opening "").render m).getLast? = some c := by
    intro opening m c h
    rw [Replacement.render, List.getLast?_append, List.getLast?_append, h]
    rfl
  have hline : ∀ p : Pattern,
      Substitution.EndsIn ⟨.marking .lineStart p .nothing, .template "// " ""⟩ closing := by
    rintro p place m c ⟨r, ⟨u, hr⟩, rfl, -⟩ hlast hc
    obtain ⟨r₁, t, h₁, r₂, h₂, rfl⟩ := Pattern.reads_seq_iff.mp hr
    obtain ⟨rfl, -⟩ := Pattern.reads_lineStart_iff.mp h₁
    obtain ⟨r₃, t', -, r₄, h₄, rfl⟩ := Pattern.reads_seq_iff.mp h₂
    obtain ⟨rfl, -⟩ := Pattern.reads_nothing_iff.mp h₄
    refine ⟨c, hc, ?_⟩
    have hmarked : r₃.text.getLast? = some c := by
      simpa [Reading.toMatch, Match.text, Reading.text] using hlast
    exact hopen (m := Reading.toMatch _) hmarked
  -- the matches of the other rules do not end with one of the characters
  have hfinishes : ∀ r ∈ [exportType, optionalField, primitives, variance, typeNodeUnion,
      nullableToken, optionalValue, readOnlyArray], ∀ s ∈ r.substitutions, ∀ c ∈ closing,
        s.target.whole.finishes c = false := by
    decide
  cases r with
  | multiLineUnion | singleLineUnion =>
    obtain rfl := List.mem_singleton.mp hs
    intro place m c hm hlast hc
    refine ⟨'/', by decide, ?_⟩
    rw [Replacement.render, List.getLast?_append]
    rfl
  | supersededTypeNode | importType =>
    obtain rfl := List.mem_singleton.mp hs
    exact hline _
  | kindLiteral =>
    obtain rfl := List.mem_singleton.mp hs
    intro place m c hm hlast hc
    obtain ⟨w, z, rest, -, -, -, -, rfl⟩ := Target.chooses_kindLiteral_iff.mp hm
    refine ⟨'\'', by decide, hopen ?_⟩
    rw [List.getLast?_append, List.getLast?_append]
    rfl
  | operationType => exact absurd rfl hr
  | _ => exact Substitution.endsIn_of_finishes (hfinishes _ (by decide) s hs)

theorem apply_nil (r : Rule) : r.apply [] = ⟨[], 0⟩ := by
  cases r <;> rfl

/-- A rule puts in nothing but what its replacements have. -/
theorem mem_apply_text {r : Rule} {d : Char} (hd : ∀ s ∈ r.substitutions, d ∉ s.replacement.added)
    {text : List Char} (h : d ∈ (r.apply text).text) : d ∈ text := by
  refine apply_induction (P := fun f => ∀ text, d ∈ (f text).text → d ∈ text) (fun _ h => h) ?_ text h
  intro s hs hsolid f ih text h
  exact (Substitution.mem_apply hsolid (ih _ h)).resolve_right (hd s hs)

/-- The rule rewrites the text, and what follows it behind a line feed, one apart from the
other. -/
def Parts (r : Rule) (text : List Char) : Prop :=
  ∀ rest, r.apply (text ++ '\n' :: rest) = ⟨(r.apply text).text ++ '\n' :: (r.apply rest).text,
    (r.apply text).count + (r.apply rest).count⟩

theorem parts_of_singleton {r : Rule} {s : Substitution} (hr : r.substitutions = [s])
    {text : List Char} (h : s.target.Stops text) : r.Parts text := by
  intro rest
  simp only [apply_eq_applyAll, hr, Substitution.applyAll, Nat.add_zero,
    Substitution.apply_append_lineFeed h]

/-- A text that ends with one of the characters parts from what follows, and ends with one of
them when it has been rewritten. -/
theorem parts_and_getLast? {r : Rule} (hr : r ≠ multiLineUnion) {ends : List Char}
    (hsub : ends ⊆ closing) (hends : ∀ s ∈ r.substitutions, s.EndsIn ends) {text : List Char}
    {c : Char} (hlast : text.getLast? = some c) (hc : c ∈ ends) :
    r.Parts text ∧ ∃ d ∈ ends, (r.apply text).text.getLast? = some d := by
  refine apply_induction (r := r) (P := fun f => ∀ {text : List Char} {c : Char},
    text.getLast? = some c → c ∈ ends →
      (∀ rest, f (text ++ '\n' :: rest) =
        ⟨(f text).text ++ '\n' :: (f rest).text, (f text).count + (f rest).count⟩) ∧
      ∃ d ∈ ends, (f text).text.getLast? = some d) ?_ ?_ hlast hc
  · exact fun hlast hc => ⟨fun rest => rfl, _, hc, hlast⟩
  · intro s hs hsolid f ih text c hlast hc
    have hstops := stops_of_mem hr hs hlast (hsub hc)
    obtain ⟨d, hd, hdlast⟩ := Substitution.getLast?_apply hsolid (hends s hs) hlast hc
    obtain ⟨hparts, hend⟩ := ih hdlast hd
    refine ⟨fun rest => ?_, hend⟩
    simp only [Substitution.apply_append_lineFeed hstops, hparts]
    congr 1
    omega

end Rule

/-! ### Runs -/

/-- Every rule rewrites what the ones before have left of the text apart from what follows. -/
def Rule.PartAll : List Rule → List Char → Prop
  | [], _ => True
  | r :: rs, text => r.Parts text ∧ PartAll rs (r.apply text).text

/-- The first four rules leave the last character of the text, and add neither `=` nor `|`. -/
theorem Rule.parts_of_early {r : Rule} (hr : r ∈ [exportType, optionalField, primitives, variance])
    {text : List Char} {c : Char} (hlast : text.getLast? = some c) (hc : c ∈ [';', ',', '{'])
    (hno : c = ';' ∨ '=' ∉ text ∨ '|' ∉ text) :
    r.Parts text ∧ (r.apply text).text.getLast? = some c ∧
      (c = ';' ∨ '=' ∉ (r.apply text).text ∨ '|' ∉ (r.apply text).text) := by
  have hearly : ∀ r ∈ [exportType, optionalField, primitives, variance], r ≠ multiLineUnion ∧
      ∀ s ∈ r.substitutions, (∀ c ∈ [';', ',', '{'], s.target.whole.finishes c = false) ∧
        '=' ∉ s.replacement.added ∧ '|' ∉ s.replacement.added := by
    decide
  have hclosing : ∀ c ∈ [';', ',', '{'], c ∈ closing := by decide
  obtain ⟨hne, hadds⟩ := hearly r hr
  have hends : ∀ s ∈ r.substitutions, s.EndsIn [c] := by
    intro s hs
    refine Substitution.endsIn_of_finishes fun d hd => ?_
    rw [List.mem_singleton.mp hd]
    exact (hadds s hs).1 c hc
  obtain ⟨hparts, d, hd, hdlast⟩ := parts_and_getLast? hne (by simpa using hclosing c hc) hends hlast
    (List.mem_singleton_self c)
  rw [List.mem_singleton.mp hd] at hdlast
  refine ⟨hparts, hdlast, hno.imp_right (Or.imp ?_ ?_)⟩
  · exact fun h hmem => h (mem_apply_text (fun s hs => (hadds s hs).2.1) hmem)
  · exact fun h hmem => h (mem_apply_text (fun s hs => (hadds s hs).2.2) hmem)

theorem Rule.parts_multiLineUnion {text : List Char} {c : Char} (hlast : text.getLast? = some c)
    (hc : c ∈ [';', ',', '{']) (hno : c = ';' ∨ '=' ∉ text ∨ '|' ∉ text) :
    multiLineUnion.Parts text ∧ ∃ d ∈ closing, (multiLineUnion.apply text).text.getLast? = some d := by
  have hclosing : ∀ c ∈ [';', ',', '{'], c ∈ closing := by decide
  have hmem : (⟨Target.multiLineUnion, .template "Node = BaseNode; /* " " */"⟩ : Substitution) ∈
      multiLineUnion.substitutions := List.mem_singleton_self _
  refine ⟨parts_of_singleton rfl (Target.stops_multiLineUnion hlast hc hno), ?_⟩
  rw [apply_eq_applyAll]
  exact Substitution.getLast?_apply (solid_of_mem hmem) (endsIn_of_mem (by decide) hmem) hlast
    (hclosing c hc)

/-- The other rules may take the last character away, but put in another one of `closing`; the last
rule need not. -/
theorem Rule.partAll_of_late {rules : List Rule}
    (hrules : ∀ r ∈ rules, r ≠ multiLineUnion ∧ r ≠ operationType) {text : List Char}
    (hlast : ∃ d ∈ closing, text.getLast? = some d) : PartAll (rules ++ [operationType]) text := by
  obtain ⟨d, hd, hdlast⟩ := hlast
  induction rules generalizing text d with
  | nil =>
    refine ⟨parts_of_singleton rfl ?_, trivial⟩
    exact stops_of_mem (show operationType ≠ multiLineUnion by decide)
      (List.mem_singleton_self _) hdlast hd
  | cons r rules ih =>
    obtain ⟨⟨hr, hr'⟩, hrules⟩ := List.forall_mem_cons.mp hrules
    obtain ⟨hparts, d, hd, hdlast⟩ := parts_and_getLast? hr (fun c hc => hc)
      (fun s hs => endsIn_of_mem hr' hs) hdlast hd
    exact ⟨hparts, ih hrules d hd hdlast⟩

/-- What is left of a text that ends with one of the characters parts from what follows, in every
step of a run. -/
theorem Rule.partAll_of_getLast? {text : List Char} {c : Char} (hlast : text.getLast? = some c)
    (hc : c ∈ [';', ',', '{']) (hno : c = ';' ∨ '=' ∉ text ∨ '|' ∉ text) : PartAll all text := by
  obtain ⟨h₁, hlast₁, hno₁⟩ := parts_of_early (r := exportType) (by decide) hlast hc hno
  obtain ⟨h₂, hlast₂, hno₂⟩ := parts_of_early (r := optionalField) (by decide) hlast₁ hc hno₁
  obtain ⟨h₃, hlast₃, hno₃⟩ := parts_of_early (r := primitives) (by decide) hlast₂ hc hno₂
  obtain ⟨h₄, hlast₄, hno₄⟩ := parts_of_early (r := variance) (by decide) hlast₃ hc hno₃
  obtain ⟨h₅, hlast₅⟩ := parts_multiLineUnion hlast₄ hc hno₄
  have hlate : ∀ r ∈ [singleLineUnion, typeNodeUnion, supersededTypeNode, nullableToken,
      optionalValue, importType, kindLiteral, readOnlyArray],
      r ≠ multiLineUnion ∧ r ≠ operationType := by
    decide
  exact ⟨h₁, h₂, h₃, h₄, h₅, partAll_of_late hlate hlast₅⟩

namespace Run

/-- The text that the rules leave when they are applied in order. -/
def textFrom (rules : List Rule) (text : List Char) : List Char :=
  rules.foldl (fun sofar r => (r.apply sofar).text) text

theorem textFrom_cons (r : Rule) (rules : List Rule) (text : List Char) :
    textFrom (r :: rules) text = textFrom rules (r.apply text).text :=
  rfl

theorem getLast?_stepsFrom (rules : List Rule) (text : List Char) :
    ((stepsFrom rules text).getLast?.map Step.text).getD text = textFrom rules text := by
  induction rules generalizing text with
  | nil => rfl
  | cons r rules ih =>
    rw [textFrom, List.foldl_cons, ← textFrom, ← ih, stepsFrom, List.getLast?_cons]
    cases (stepsFrom rules (r.apply text).text).getLast? <;> rfl

theorem text_of (text : List Char) : (of text).text = textFrom Rule.all text :=
  getLast?_stepsFrom Rule.all text

/-- The replacements of a rule in the run of some rules. -/
def countFrom (rules : List Rule) (text : List Char) (rule : Rule) : Nat :=
  (Report.mk ((stepsFrom rules text).map fun step => (step.rule, step.count))).count rule

theorem countFrom_cons (r : Rule) (rules : List Rule) (text : List Char) (rule : Rule) :
    countFrom (r :: rules) text rule =
      if rule = r then (r.apply text).count else countFrom rules (r.apply text).text rule := by
  by_cases h : rule = r
  · simp [countFrom, Report.count, stepsFrom, h]
  · have hne : (rule == r) = false := by simpa using h
    simp [countFrom, Report.count, stepsFrom, List.lookup_cons, h, hne]

theorem textFrom_append (rules rules' : List Rule) (text : List Char) :
    textFrom (rules ++ rules') text = textFrom rules' (textFrom rules text) :=
  List.foldl_append

theorem textFrom_nil (rules : List Rule) : textFrom rules [] = [] := by
  induction rules with
  | nil => rfl
  | cons r rules ih =>
    rw [textFrom, List.foldl_cons, r.apply_nil]
    exact ih

theorem countFrom_nil (rules : List Rule) (rule : Rule) : countFrom rules [] rule = 0 := by
  induction rules with
  | nil => rfl
  | cons r rules ih => rw [countFrom_cons, r.apply_nil, ih, ite_self]

variable {rules : List Rule} {text : List Char}

theorem textFrom_append_lineFeed (h : Rule.PartAll rules text) (rest : List Char) :
    textFrom rules (text ++ '\n' :: rest) = textFrom rules text ++ '\n' :: textFrom rules rest := by
  induction rules generalizing text rest with
  | nil => rfl
  | cons r rules ih =>
    obtain ⟨hr, hrest⟩ := h
    have hstep := ih hrest (r.apply rest).text
    simp only [textFrom, List.foldl_cons, hr rest] at hstep ⊢
    exact hstep

theorem countFrom_append_lineFeed (h : Rule.PartAll rules text) (rest : List Char) (rule : Rule) :
    countFrom rules (text ++ '\n' :: rest) rule =
      countFrom rules text rule + countFrom rules rest rule := by
  induction rules generalizing text rest with
  | nil => rfl
  | cons r rules ih =>
    obtain ⟨hr, hrest⟩ := h
    simp only [countFrom_cons, hr rest, ih hrest]
    split <;> rfl

/-- Put together behind `;` and a line feed, two texts are rewritten one apart from the other: the
texts that are left are put together, and the replacements of each rule add up. -/
theorem of_append {text : List Char} (rest : List Char) (h : ";\n".toList <:+ text) :
    (of (text ++ rest)).text = (of text).text ++ (of rest).text ∧
      ∀ rule, (of (text ++ rest)).report.count rule =
        (of text).report.count rule + (of rest).report.count rule := by
  obtain ⟨before, rfl⟩ := h
  have hpart : Rule.PartAll Rule.all (before ++ [';']) :=
    Rule.partAll_of_getLast? List.getLast?_concat (by decide) (.inl rfl)
  have hsplit : ∀ rest, before ++ ";\n".toList ++ rest = before ++ [';'] ++ '\n' :: rest := by
    intro rest
    simp
  have halone : before ++ ";\n".toList = before ++ [';'] ++ '\n' :: [] := by
    simp
  constructor
  · rw [text_of, text_of, text_of, hsplit, halone, textFrom_append_lineFeed hpart,
      textFrom_append_lineFeed hpart]
    simp [textFrom_nil]
  · intro rule
    show countFrom Rule.all _ rule = countFrom Rule.all _ rule + countFrom Rule.all _ rule
    rw [hsplit, halone, countFrom_append_lineFeed hpart, countFrom_append_lineFeed hpart,
      countFrom_nil, Nat.add_zero]

/-- The `|` of the second text is not taken for an alternative of the union in the first one. -/
theorem of_append_union :
    ";\n".toList <:+ "export type Node =\n  | A;\n".toList ∧
      (of ("export type Node =\n  | A;\n".toList ++ "  | B;\n".toList)).text =
        "typedef /* export type */ Node = BaseNode; /* \n  | A; */\n  | B;\n".toList ∧
      (of ("export type Node =\n  | A;\n".toList ++ "  | B;\n".toList)).report.count
        .multiLineUnion = 1 := by
  have hend : ";\n".toList <:+ "export type Node =\n  | A;\n".toList := by decide
  obtain ⟨htext, hcount⟩ := of_append "  | B;\n".toList hend
  refine ⟨hend, htext.trans ?_, (hcount .multiLineUnion).trans ?_⟩
  · decide
  · decide

end Run

end HaxeTypedefs
