/-
What the banner lets through to the code.

The banner is made of block comments, and the URL stands in one of them as it is.  So a URL with
`*/` in it closes the comment, and what is behind is read as code.  The banner is still all comments
if only white space comes there and then another comment, which goes on to the end that the banner
has put behind the URL.

* **`Region.OnlyBlockComments.exists_live`** — a text of block comments leaves the code behind it alone;
* **`Region.onlyBlockComments_block_iff`** — the texts that can stand in a comment;
* **`Source.banner_onlyBlockComments_iff`** — the URLs that keep the banner in comments;
* **`Source.not_onlyBlockComments_banner`** — a path and a tag that do not.
-/
import HaxeTypedefs.Haxe.Module
import HaxeTypedefs.Proofs.Comment
import HaxeTypedefs.Proofs.Matches
import HaxeTypedefs.Source

namespace HaxeTypedefs

namespace Region

/-- Read from the region on, every character but white space belongs to a block comment, and the text
ends in the code. -/
def OnlyBlockComments (region : Region) (text : List Char) : Prop :=
  (∀ p ∈ text.zip (region.along text), isBlank p.1 = false → p.2 = blockComment) ∧
    region.after text = code

instance (region : Region) (text : List Char) : Decidable (region.OnlyBlockComments text) :=
  inferInstanceAs (Decidable (_ ∧ _))

variable {region : Region} {c : Char} {v w x : List Char}

/-! ### Character by character -/

theorem onlyBlockComments_open_iff :
    code.OnlyBlockComments ('/' :: '*' :: w) ↔ blockComment.OnlyBlockComments w := by
  simp [OnlyBlockComments, along, after]

theorem not_onlyBlockComments_line : ¬ code.OnlyBlockComments ('/' :: '/' :: w) := by
  intro h
  have hfirst := h.1 ('/', lineComment) (by simp [along]) (by decide)
  cases hfirst

theorem onlyBlockComments_code_iff (hline : ∀ w', c = '/' → w = '/' :: w' → False)
    (hopen : ∀ w', c = '/' → w = '*' :: w' → False) :
    code.OnlyBlockComments (c :: w) ↔ isBlank c = true ∧ code.OnlyBlockComments w := by
  simp [OnlyBlockComments, along, after, and_assoc]

theorem onlyBlockComments_close_iff :
    blockComment.OnlyBlockComments ('*' :: '/' :: w) ↔ code.OnlyBlockComments w := by
  simp [OnlyBlockComments, along, after]

theorem onlyBlockComments_inside_iff (hclose : ∀ w', c = '*' → w = '/' :: w' → False) :
    blockComment.OnlyBlockComments (c :: w) ↔ blockComment.OnlyBlockComments w := by
  simp [OnlyBlockComments, along, after]

/-- In the code only white space may come, or the start of a block comment. -/
theorem OnlyBlockComments.code_cases (h : code.OnlyBlockComments (c :: w)) :
    isBlank c = true ∨ ∃ w', c = '/' ∧ w = '*' :: w' := by
  by_cases hopen : ∃ w', c = '/' ∧ w = '*' :: w'
  · exact .inr hopen
  · left
    refine ((onlyBlockComments_code_iff ?_ fun w' hc hw => hopen ⟨w', hc, hw⟩).mp h).1
    rintro w' rfl rfl
    exact not_onlyBlockComments_line h

theorem onlyBlockComments_blanks_iff (h : ∀ c ∈ v, isBlank c = true) :
    code.OnlyBlockComments (v ++ w) ↔ code.OnlyBlockComments w := by
  induction v with
  | nil => rfl
  | cons c v ih =>
    obtain ⟨hc, hv⟩ := List.forall_mem_cons.mp h
    have hslash : c ≠ '/' := by
      rintro rfl
      exact absurd hc (by decide)
    rw [List.cons_append, onlyBlockComments_code_iff (fun _ h => absurd h hslash)
      (fun _ h => absurd h hslash), ih hv, and_iff_right hc]

/-- What is behind such a text is read as if it stood alone. -/
theorem OnlyBlockComments.exists_live (h : region.OnlyBlockComments x)
    (hregion : region ≠ lineComment) :
    ∃ gap, (∀ c ∈ gap, isBlank c = true) ∧ ∀ w, region.live (x ++ w) = gap ++ code.live w ∧
      (region.OnlyBlockComments (x ++ w) ↔ code.OnlyBlockComments w) := by
  fun_induction along region x with
  | case1 region =>
    obtain rfl : region = code := h.2
    exact ⟨[], by simp, fun w => ⟨rfl, Iff.rfl⟩⟩
  | case2 x ih => exact absurd h not_onlyBlockComments_line
  | case3 x ih =>
    obtain ⟨gap, hgap, hrest⟩ := ih (onlyBlockComments_open_iff.mp h) (by decide)
    refine ⟨' ' :: gap, List.forall_mem_cons.mpr ⟨by decide, hgap⟩, fun w => ⟨?_, ?_⟩⟩
    · exact congrArg (List.cons ' ') (hrest w).1
    · exact onlyBlockComments_open_iff.trans (hrest w).2
  | case4 c x hline hopen ih =>
    obtain ⟨hc, hx⟩ := (onlyBlockComments_code_iff hline hopen).mp h
    obtain ⟨gap, hgap, hrest⟩ := ih hx (by decide)
    have hblank : ∀ d ∈ [c], isBlank d = true := by simpa using hc
    have hslash : '/' ∉ [c] := fun hmem => absurd (hblank _ hmem) (by decide)
    refine ⟨c :: gap, List.forall_mem_cons.mpr ⟨hc, hgap⟩, fun w => ⟨?_, ?_⟩⟩
    · rw [List.cons_append, ← List.singleton_append, live_append_of_not_mem hslash, (hrest w).1]
      rfl
    · exact (onlyBlockComments_blanks_iff hblank).trans (hrest w).2
  | case5 => exact absurd rfl hregion
  | case6 => exact absurd rfl hregion
  | case7 x ih =>
    obtain ⟨gap, hgap, hrest⟩ := ih (onlyBlockComments_close_iff.mp h) (by decide)
    exact ⟨gap, hgap, fun w => ⟨(hrest w).1, onlyBlockComments_close_iff.trans (hrest w).2⟩⟩
  | case8 c x hclose ih =>
    have hx := (onlyBlockComments_inside_iff hclose).mp h
    obtain ⟨gap, hgap, hrest⟩ := ih hx (by decide)
    -- the comment is closed within the text, so a slash behind the text does not close it
    have hclose' : ∀ w w', c = '*' → x ++ w = '/' :: w' → False := by
      intro w w' hc hw
      cases x with
      | nil => exact absurd hx.2 (by decide)
      | cons d x => exact hclose x hc (congrArg (List.cons · x) (List.cons.inj hw).1)
    refine ⟨gap, hgap, fun w => ⟨?_, ?_⟩⟩
    · rw [List.cons_append, live, (hrest w).1]
      exact hclose' w
    · exact (onlyBlockComments_inside_iff (hclose' w)).trans (hrest w).2

/-! ### Comment by comment -/

/-- The first `*/` closes a comment. -/
theorem onlyBlockComments_closed_iff (h : ¬ "*/".toList <:+: v) :
    blockComment.OnlyBlockComments (v ++ ("*/".toList ++ w)) ↔ code.OnlyBlockComments w := by
  induction v with
  | nil => exact onlyBlockComments_close_iff
  | cons c v ih =>
    have hclose : ∀ w', c = '*' → v ++ ("*/".toList ++ w) = '/' :: w' → False := by
      rintro w' rfl hw
      cases v with
      | nil => cases hw
      | cons d v =>
        obtain rfl : d = '/' := (List.cons.inj hw).1
        exact h (List.prefix_append "*/".toList v).isInfix
    rw [List.cons_append, onlyBlockComments_inside_iff hclose]
    exact ih fun hpart => h (hpart.trans (List.suffix_cons c v).isInfix)

end Region

/-! ### Locations -/

/-- A text that has another one has it somewhere for the first time. -/
theorem exists_first {key text : List Char} (hkey : key ≠ []) (h : key <:+: text) :
    ∃ x y, text = x ++ (key ++ y) ∧ ¬ key <:+: x := by
  induction text with
  | nil => exact absurd (List.infix_nil.mp h) hkey
  | cons c text ih =>
    by_cases hprefix : key <+: c :: text
    · obtain ⟨y, hy⟩ := hprefix
      exact ⟨[], y, hy.symm, fun hnil => hkey (List.infix_nil.mp hnil)⟩
    · obtain ⟨x, y, rfl, hx⟩ := ih ((List.infix_cons_iff.mp h).resolve_left hprefix)
      refine ⟨c :: x, y, rfl, fun hpart => ?_⟩
      rcases List.infix_cons_iff.mp hpart with hstart | hpart
      · exact hprefix (hstart.trans (List.prefix_append (c :: x) (key ++ y)))
      · exact hx hpart

/-- The text brings nothing out of a block comment that it stands in: where it closes the comment, white
space follows and another comment, in which it goes on in the same way. -/
inductive StaysInComment : List Char → Prop
  | kept {v : List Char} : ¬ "*/".toList <:+: v → StaysInComment v
  | reopened {v gap w : List Char} : ¬ "*/".toList <:+: v → (∀ c ∈ gap, isBlank c = true) →
      StaysInComment w →
        StaysInComment (v ++ ("*/".toList ++ (gap ++ ("/*".toList ++ w))))

namespace Region

variable {u v w : List Char}

theorem onlyBlockComments_end_iff (h : ¬ "*/".toList <:+: v) :
    blockComment.OnlyBlockComments (v ++ (" */".toList ++ w)) ↔ code.OnlyBlockComments w := by
  have hv : ¬ "*/".toList <:+: v ++ " ".toList := by
    intro hpart
    rcases pair_infix_append_iff.mp hpart with hpart | hpart | ⟨-, hpart⟩
    · exact h hpart
    · exact absurd hpart (by decide)
    · exact absurd hpart (by decide)
  have hend : v ++ (" */".toList ++ w) = v ++ " ".toList ++ ("*/".toList ++ w) := by
    rw [List.append_assoc]
    rfl
  rw [hend, onlyBlockComments_closed_iff hv]

/-- A text that stands in a block comment, up to the end of the comment. -/
theorem onlyBlockComments_block_iff :
    blockComment.OnlyBlockComments (u ++ (" */".toList ++ w)) ↔
      StaysInComment u ∧ code.OnlyBlockComments w := by
  constructor
  · intro h
    -- by the length: what is behind the first comment that the text opens itself is shorter
    induction hlen : u.length using Nat.strongRecOn generalizing u with
    | ind n ih =>
    by_cases hu : "*/".toList <:+: u
    · obtain ⟨v, y, rfl, hv⟩ := exists_first (by decide) hu
      obtain ⟨gap, z, rfl, hgap, hz⟩ := exists_span isBlank y
      simp only [List.append_assoc] at h
      rw [onlyBlockComments_closed_iff hv, onlyBlockComments_blanks_iff hgap] at h
      cases z with
      | nil =>
        -- the end of the comment would be read as code
        have hend := (onlyBlockComments_blanks_iff (v := " ".toList) (by decide)).mp h
        rcases hend.code_cases with hblank | ⟨w', hslash, -⟩
        · exact absurd hblank (by decide)
        · exact absurd hslash (by decide)
      | cons c z =>
        rcases h.code_cases with hblank | ⟨w', rfl, hw'⟩
        · exact absurd hz (by simp [hblank])
        · cases z with
          | nil => cases hw'
          | cons d z =>
            obtain rfl : d = '*' := (List.cons.inj hw').1
            obtain ⟨hstay, hw⟩ := ih z.length (by simp at hlen; omega)
              (onlyBlockComments_open_iff.mp h) rfl
            exact ⟨.reopened hv hgap hstay, hw⟩
    · exact ⟨.kept hu, (onlyBlockComments_end_iff hu).mp h⟩
  · rintro ⟨hstay, hw⟩
    induction hstay with
    | kept hv => exact (onlyBlockComments_end_iff hv).mpr hw
    | reopened hv hgap _ ih =>
      simp only [List.append_assoc]
      rw [onlyBlockComments_closed_iff hv, onlyBlockComments_blanks_iff hgap]
      exact onlyBlockComments_open_iff.mpr ih

end Region

instance (text : List Char) : Decidable (StaysInComment text) :=
  decidable_of_iff (Region.blockComment.OnlyBlockComments (text ++ " */".toList)) <| by
    have hnil : Region.code.OnlyBlockComments [] := by decide
    rw [← List.append_nil " */".toList, Region.onlyBlockComments_block_iff, and_iff_left hnil]

/-! ### The banner -/

/-- A line of the banner that warns against editing. -/
def warning : String :=
  "/* GENERATED BY " ++ generator ++ " -- DO NOT EDIT!!! */\n"

/-- What stands above the line with the URL. -/
def aboveUrl : List Char :=
  (String.join (List.replicate 4 warning)).toList ++ "/* */\n".toList

theorem onlyBlockComments_aboveUrl : Region.code.OnlyBlockComments aboveUrl := by
  have hwarning : Region.code.OnlyBlockComments warning.toList := by decide +kernel
  have hrule : Region.code.OnlyBlockComments "/* */\n".toList := by decide
  obtain ⟨gap, -, hbehind⟩ := hwarning.exists_live (by decide)
  have hlines : (String.join (List.replicate 4 warning)).toList =
      warning.toList ++ (warning.toList ++ (warning.toList ++ warning.toList)) := by
    simp [String.join]
  rw [aboveUrl, hlines]
  simp only [List.append_assoc]
  simp only [(hbehind _).2, hrule]

theorem toList_banner (provenance : String) : (banner provenance).toList =
    aboveUrl ++ ("/* based on: ".toList ++
      (provenance.toList ++ (" */".toList ++ "\n/* */\n".toList))) := by
  have hclose : " */\n".toList ++ "/* */\n".toList = " */".toList ++ "\n/* */\n".toList := by decide
  unfold banner aboveUrl warning
  simp only [String.toList_append, List.append_assoc]
  rw [hclose]

theorem onlyBlockComments_iff_staysInComment (provenance : String) :
    Region.code.OnlyBlockComments (banner provenance).toList ↔
      StaysInComment provenance.toList := by
  obtain ⟨gap, -, hbehind⟩ := onlyBlockComments_aboveUrl.exists_live (by decide)
  have hopen : ∀ w, Region.code.OnlyBlockComments ("/* based on: ".toList ++ w) ↔
      Region.blockComment.OnlyBlockComments w := by
    intro w
    simp [Region.OnlyBlockComments, Region.along, Region.after]
  have hend : Region.code.OnlyBlockComments "\n/* */\n".toList := by decide
  rw [toList_banner, (hbehind _).2, hopen, Region.onlyBlockComments_block_iff, and_iff_left hend]

/-- What stands behind the banner. -/
def belowBanner (body : String) : String :=
  "\n" ++ definitions ++ "\n" ++ placeholder ++ "\n" ++ body ++ epilogue

/-- If the banner is only block comments, the code of a module is what stands above and below it. -/
theorem exists_live_assemble {provenance : String}
    (h : Region.code.OnlyBlockComments (banner provenance).toList) :
    ∃ gap, (∀ c ∈ gap, isBlank c = true) ∧ ∀ body,
      Region.code.live (assemble provenance body).toList =
        packageHeader.toList ++ (gap ++ Region.code.live (belowBanner body).toList) := by
  obtain ⟨gap, hgap, hbehind⟩ := h.exists_live (by decide)
  have hheader : '/' ∉ (packageHeader ++ "\n").toList := by decide
  refine ⟨"\n".toList ++ gap, ?_, fun body => ?_⟩
  · rw [List.forall_mem_append]
    exact ⟨by decide, hgap⟩
  · have hsplit : (assemble provenance body).toList = (packageHeader ++ "\n").toList ++
        ((banner provenance).toList ++ (belowBanner body).toList) := by
      simp only [assemble, preamble, belowBanner, ← String.toList_append, String.append_assoc]
    rw [hsplit, Region.live_append_of_not_mem hheader, (hbehind _).1, String.toList_append]
    simp only [List.append_assoc]

/-- The banner of a source is only block comments exactly if the URL brings nothing out of the one that
it stands in, and then the modules that name this source have no code but the one above and below the
banner, all of it. -/
theorem Source.banner_onlyBlockComments_iff (s : Source) :
    (Region.code.OnlyBlockComments (banner s.url).toList ↔ StaysInComment s.url.toList) ∧
    (StaysInComment s.url.toList → ∃ gap, (∀ c ∈ gap, isBlank c = true) ∧ ∀ body,
      Region.code.live (assemble s.url body).toList =
        packageHeader.toList ++ (gap ++ Region.code.live (belowBanner body).toList)) := by
  have hiff := onlyBlockComments_iff_staysInComment s.url
  exact ⟨hiff, fun h => exists_live_assemble (hiff.mpr h)⟩

/-- A path that closes the comment and opens another one at once. -/
theorem Source.banner_onlyBlockComments_iff_of_reopened :
    StaysInComment (Source.copy "src/*//*/ast.js").url.toList ∧
      Region.code.OnlyBlockComments (banner (Source.copy "src/*//*/ast.js").url).toList := by
  have hstays : StaysInComment (Source.copy "src/*//*/ast.js").url.toList := by decide +kernel
  exact ⟨hstays, (Source.banner_onlyBlockComments_iff _).1.mpr hstays⟩

/-- A directory of the name `*` brings the rest of the path into the code, and so does a tag that ends
in a star. -/
theorem Source.not_onlyBlockComments_banner :
    ¬ Region.code.OnlyBlockComments (banner (Source.copy "src/*/ast.js").url).toList ∧
      ¬ Region.code.OnlyBlockComments (banner (Source.release "v0.13.*").url).toList := by
  simp only [onlyBlockComments_iff_staysInComment]
  decide +kernel

end HaxeTypedefs
