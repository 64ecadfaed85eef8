/-
Fields of type `Token | null`.

`nullableToken` takes a field for its own that has white space before it, from the start of a
line on.  White space goes over line feeds, so the field of a match may begin some blank
lines above its name and end some lines below, and it can be told apart in several ways.  All
of them end in the same place, and the search finds the one that begins first.

* **`TokenField.chooses_iff`** — the matches of the rule are such fields;
* **`TokenField.exists_found`** — every such field is the end of one that the search finds.
-/
import HaxeTypedefs.Proofs.Found
import HaxeTypedefs.Proofs.Seam

namespace HaxeTypedefs

/-- A line begins behind the text. -/
def BeginsLine (before : List Char) : Prop :=
  ∀ c ∈ before.getLast?, c = '\n'

instance (before : List Char) : Decidable (BeginsLine before) :=
  inferInstanceAs (Decidable (∀ c ∈ before.getLast?, c = '\n'))

theorem beginsLine_iff_atLineStart {before ahead : List Char} :
    BeginsLine before ↔ (Place.between before ahead).atLineStart = true := by
  rw [BeginsLine, Place.between, Place.atLineStart]
  cases before.getLast? <;> simp

/-- Whether a line begins is seen from the last character, if there is one. -/
theorem BeginsLine.right {x y : List Char} (h : BeginsLine (x ++ y)) : BeginsLine y := by
  intro c hc
  refine h c ?_
  rw [Option.mem_def] at hc ⊢
  rw [List.getLast?_append, hc]
  rfl

theorem BeginsLine.below {y : List Char} (h : BeginsLine y) (x : List Char) :
    BeginsLine (x ++ '\n' :: y) := by
  intro c hc
  rw [List.getLast?_append_cons, List.getLast?_cons, Option.mem_def, Option.some.injEq] at hc
  cases hlast : y.getLast? with
  | none => rw [← hc, hlast, Option.getD_none]
  | some d => rw [← hc, hlast, Option.getD_some, h d hlast]

/-- A field of type `Token | null` with white space before it. -/
structure TokenField where
  indent : List Char
  name : List Char
  /-- what stands between the colon and the type -/
  space : List Char
  indent_ne_nil : indent ≠ []
  isBlank_of_mem_indent : ∀ c ∈ indent, isBlank c = true
  name_eq : name = "prev".toList ∨ name = "next".toList
  isBlank_of_mem_space : ∀ c ∈ space, isBlank c = true

namespace TokenField

/-- The field as it is found. -/
def written (f : TokenField) : List Char :=
  f.indent ++ (f.name ++ (":".toList ++ (f.space ++ "Token | null".toList)))

/-- The field as it is put in. -/
def inHaxe (f : TokenField) : List Char := "  ?".toList ++ f.name ++ ": Null<Token>".toList

/-- The field in the parts of the rule's target. -/
def toMatch (f : TokenField) : Match :=
  ⟨f.indent, f.name, ":".toList ++ (f.space ++ "Token | null".toList)⟩

/-- The field stands in the text, from the start of a line on. -/
def StandsIn (f : TokenField) (text : List Char) : Prop :=
  ∃ x y, text = x ++ (f.written ++ y) ∧ BeginsLine x

theorem text_toMatch (f : TokenField) : f.toMatch.text = f.written := by
  simp [toMatch, written, Match.text]

theorem exists_written_eq (f : TokenField) : ∃ w, f.written = w ++ "Token | null".toList :=
  ⟨f.indent ++ (f.name ++ (":".toList ++ f.space)), by simp [written]⟩

theorem head?_name_append (f : TokenField) (x : List Char) :
    (f.name ++ x).head?.any isBlank = false := by
  rcases f.name_eq with h | h <;> rw [h] <;> rfl

theorem lineFeed_not_mem_name (f : TokenField) : '\n' ∉ f.name := by
  rcases f.name_eq with h | h <;> rw [h] <;> decide

/-- The matches of the rule are the fields that begin with a line. -/
theorem chooses_iff {x ahead : List Char} {m : Match} :
    Target.nullableToken.Chooses (.between x ahead) m ↔
      BeginsLine x ∧ ∃ f : TokenField, ∃ rest, ahead = f.written ++ rest ∧ m = f.toMatch := by
  rw [Place.between, Target.chooses_nullableToken_iff]
  constructor
  · rintro ⟨bl, name, bl', rest, rfl, hs, hne, hbl, hname, hbl', rfl⟩
    refine ⟨beginsLine_iff_atLineStart.mpr hs, ⟨bl, name, bl', hne, hbl, hname, hbl'⟩, rest, ?_, rfl⟩
    simp [written]
  · rintro ⟨hs, f, rest, rfl, rfl⟩
    exact ⟨f.indent, f.name, f.space, rest, by simp [written], beginsLine_iff_atLineStart.mp hs,
      f.indent_ne_nil, f.isBlank_of_mem_indent, f.name_eq, f.isBlank_of_mem_space, rfl⟩

/-- What the search finds is a field that begins with a line. -/
theorem of_found {text : List Char} {px py : List Piece} {m : Match}
    (h : Target.nullableToken.pieces text = px ++ .found m :: py) :
    BeginsLine (textOf px) ∧ ∃ f : TokenField, m = f.toMatch ∧
      text = textOf px ++ (f.written ++ textOf py) := by
  obtain ⟨hpx, f, -, -, rfl⟩ := chooses_iff.mp (Target.chooses_of_found h)
  refine ⟨hpx, f, rfl, ?_⟩
  rw [← text_toMatch]
  exact Target.eq_of_found h

/-- Where two fields begin with their names, they are alike to the end. -/
theorem eq_of_indented {f g : TokenField} {bl y y' : List Char} (hbl : ∀ c ∈ bl, isBlank c = true)
    (h : f.written ++ y = bl ++ (g.name ++ (":".toList ++ (g.space ++ ("Token | null".toList ++ y'))))) :
    bl = f.indent ∧ g.name = f.name ∧ g.space = f.space ∧ y' = y := by
  have hsplit : f.indent ++ (f.name ++ (":".toList ++ (f.space ++ ("Token | null".toList ++ y)))) =
      bl ++ (g.name ++ (":".toList ++ (g.space ++ ("Token | null".toList ++ y')))) := by
    simpa [written] using h
  obtain ⟨hindent, hnamed⟩ := span_unique hsplit f.isBlank_of_mem_indent hbl
    (f.head?_name_append _) (g.head?_name_append _)
  have hlen : f.name.length = g.name.length := by
    rcases f.name_eq with h | h <;> rcases g.name_eq with h' | h' <;> rw [h, h'] <;> rfl
  obtain ⟨hname, hcolon⟩ := List.append_inj hnamed hlen
  obtain ⟨hspace, htype⟩ := span_unique (List.append_cancel_left hcolon) f.isBlank_of_mem_space
    g.isBlank_of_mem_space rfl rfl
  exact ⟨hindent.symm, hname.symm, hspace.symm, (List.append_cancel_left htype).symm⟩

/-- No field begins with a line behind the indent of another one: the line would have to begin in the
white space behind the colon, where no name follows. -/
theorem not_written_behind_indent {f g : TokenField} {w v y z : List Char} (hw : BeginsLine w)
    (hrest : g.name ++ (":".toList ++ (g.space ++ "Token | null".toList)) = w ++ v) :
    f.written ++ y ≠ v ++ z := by
  intro h
  cases hlast : w.getLast? with
  | none =>
    obtain rfl := List.getLast?_eq_none_iff.mp hlast
    rw [List.nil_append] at hrest
    rw [← hrest] at h
    have hnone : ∀ c ∈ ([] : List Char), isBlank c = true := by simp
    exact f.indent_ne_nil (eq_of_indented hnone (by simpa using h)).1.symm
  | some d =>
    obtain ⟨w, rfl⟩ := List.getLast?_eq_some_iff.mp hlast
    obtain rfl : d = '\n' := hw d (by simp)
    have hnamed : '\n' ∉ g.name ++ ":".toList := by
      rw [List.mem_append, not_or]
      exact ⟨g.lineFeed_not_mem_name, by decide⟩
    have hsplit : w ++ '\n' :: v =
        (g.name ++ ":".toList) ++ (g.space ++ "Token | null".toList) := by
      simpa using hrest.symm
    obtain ⟨a, -, ha⟩ := Target.exists_of_append_eq_of_not_mem hsplit hnamed
    rcases List.append_eq_append_iff.mp ha with ⟨b, -, hb⟩ | ⟨b, hb, hv⟩
    · have hmem : '\n' ∈ "Token | null".toList := by simp [hb]
      exact absurd hmem (by decide)
    · cases b with
      | nil => cases (List.cons.inj hv).1
      | cons e b =>
        obtain ⟨-, rfl⟩ := List.cons.inj hv
        have hblank : ∀ c ∈ b, isBlank c = true := fun c hc =>
          g.isBlank_of_mem_space c (by simp [hb, hc])
        have htype : f.indent ++ (f.name ++ (":".toList ++ (f.space ++ "Token | null".toList)) ++ y) =
            b ++ ("Token | null".toList ++ z) := by
          simpa [written] using h
        obtain ⟨-, hname⟩ := span_unique htype f.isBlank_of_mem_indent hblank
          (by rw [List.append_assoc]; exact f.head?_name_append _) rfl
        rcases f.name_eq with hf | hf <;> rw [hf] at hname <;> cases hname

/-- A field that begins with a line inside of another one is the end of it: what lies between is
white space. -/
theorem eq_of_written_append {f g : TokenField} {u v y z : List Char} (hu : BeginsLine u)
    (hg : g.written = u ++ v) (h : f.written ++ y = v ++ z) :
    g.indent = u ++ f.indent ∧ g.name = f.name ∧ g.space = f.space ∧ y = z := by
  rcases List.append_eq_append_iff.mp (hg : g.indent ++ _ = u ++ v) with
    ⟨w, rfl, hrest⟩ | ⟨w, hw, rfl⟩
  · exact absurd h (not_written_behind_indent hu.right hrest)
  · have hblank : ∀ c ∈ w, isBlank c = true := fun c hc =>
      g.isBlank_of_mem_indent c (by rw [hw]; exact List.mem_append_right _ hc)
    obtain ⟨rfl, hname, hspace, hz⟩ := eq_of_indented hblank (by simpa using h)
    exact ⟨hw, hname, hspace, hz.symm⟩

/-- A field that begins with a line of the text is the end of one that the search finds. -/
theorem exists_found {f : TokenField} {x y : List Char} (hx : BeginsLine x) :
    ∃ px, ∃ g : TokenField, ∃ py u,
      Target.nullableToken.pieces (x ++ (f.written ++ y)) = px ++ .found g.toMatch :: py ∧
      x = textOf px ++ u ∧ y = textOf py ∧
      g.indent = u ++ f.indent ∧ g.name = f.name ∧ g.space = f.space := by
  have hm : Target.nullableToken.Chooses (.between x (f.written ++ y)) f.toMatch :=
    chooses_iff.mpr ⟨hx, f, y, rfl, rfl⟩
  obtain ⟨px, m, py, u, v, hpieces, rfl, hmtext, hv, hahead⟩ :=
    Target.exists_found (by decide) hm.matches
  obtain ⟨hpx, g, rest, -, rfl⟩ := chooses_iff.mp (Target.chooses_of_found hpieces)
  rw [text_toMatch] at hmtext
  obtain ⟨hindent, hname, hspace, rfl⟩ := eq_of_written_append hx.right hmtext hahead
  exact ⟨px, g, py, u, hpieces, rfl, rfl, hindent, hname, hspace⟩

end TokenField

end HaxeTypedefs
