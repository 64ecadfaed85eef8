/-
What a module says about its source.

The URL that a text is converted with stands in one line of the module, the eighth one,
and nowhere else.  It is found there again by the place of the line feed behind it, even if
the text itself looks like a banner, so a module can be taken apart into its URL and its body.

* **`lines_assemble`** — the lines of a module;
* **`assemble_inj`** — a module has one URL and one body;
* **`convert_lenient_provenance`** — two conversions of a text with two URLs.
-/
import HaxeTypedefs.Conversion

namespace HaxeTypedefs

/-- The lines of a text, without the line feeds between them. -/
def lines (text : String) : List (List Char) :=
  text.toList.splitOn '\n'

/-- The line of the banner that names the provenance. -/
def provenanceLine (provenance : String) : List Char :=
  ("/* based on: " ++ provenance ++ " */").toList

/-- What stands above that line, less the last line feed. -/
def masthead : List Char :=
  (packageHeader ++ "\n" ++
    String.join (List.replicate 4 ("/* GENERATED BY " ++ generator ++ " -- DO NOT EDIT!!! */\n")) ++
    "/* */").toList

/-- What stands between that line and the body. -/
def prelude : List Char :=
  ("/* */\n" ++ "\n" ++ definitions ++ "\n" ++ placeholder ++ "\n").toList

theorem length_splitOn_eq (text : List Char) :
    (text.splitOn '\n').length = text.count '\n' + 1 := by
  induction text with
  | nil => rfl
  | cons c text ih =>
    rw [List.splitOn_cons_eq_if_modifyHead, List.count_cons]
    by_cases h : (c == '\n') = true <;> simp [h, ih]

theorem length_splitOn_masthead : (masthead.splitOn '\n').length = 7 := by
  have hcount : masthead.count '\n' = 6 := by decide +kernel
  rw [length_splitOn_eq, hcount]

theorem toList_assemble (provenance body : String) : (assemble provenance body).toList =
    masthead ++ ("\n".toList ++ (provenanceLine provenance ++ ("\n".toList ++
      (prelude ++ (body.toList ++ epilogue.toList))))) := by
  have hrule : "/* */\n".toList = "/* */".toList ++ "\n".toList := by decide
  have hclose : " */\n".toList = " */".toList ++ "\n".toList := by decide
  unfold assemble preamble banner masthead provenanceLine prelude
  generalize definitions = types
  generalize String.join _ = warning
  simp only [String.toList_append, List.append_assoc]
  rw [hrule, hclose]
  simp only [List.append_assoc]

/-- The provenance is the eighth line, whatever the text of the module is. -/
theorem lines_assemble {provenance : String} (h : '\n' ∉ provenance.toList) (body : String) :
    lines (assemble provenance body) = masthead.splitOn '\n' ++
      provenanceLine provenance :: (prelude ++ (body.toList ++ epilogue.toList)).splitOn '\n' := by
  have hline : '\n' ∉ provenanceLine provenance := by
    have hopen : '\n' ∉ "/* based on: ".toList := by decide
    have hclose : '\n' ∉ " */".toList := by decide
    simp only [provenanceLine, String.toList_append, List.mem_append, not_or]
    exact ⟨⟨hopen, h⟩, hclose⟩
  -- a line feed stands on each side of the provenance, and none in it
  have hfeed : ∀ w : List Char, "\n".toList ++ w = '\n' :: w := fun _ => rfl
  rw [lines, toList_assemble, hfeed, hfeed, List.splitOn_append_cons_self,
    List.splitOn_append_cons_self_of_not_mem hline]

theorem getElem?_lines_assemble {provenance : String} (h : '\n' ∉ provenance.toList)
    (body : String) : (lines (assemble provenance body))[7]? = some (provenanceLine provenance) := by
  rw [lines_assemble h, List.getElem?_append_right (Nat.le_of_eq length_splitOn_masthead),
    length_splitOn_masthead, Nat.sub_self, List.getElem?_cons_zero]

/-- The first line feed behind the masthead ends the provenance, so that the rest is the body. -/
theorem assemble_inj {u u' b b' : String} (hu : '\n' ∉ u.toList) (hu' : '\n' ∉ u'.toList)
    (h : assemble u b = assemble u' b') : u = u' ∧ b = b' := by
  have hchars := congrArg String.toList h
  have hlines := congrArg lines h
  rw [lines_assemble hu, lines_assemble hu', List.append_cancel_left_eq] at hlines
  have hline : provenanceLine u = provenanceLine u' := (List.cons.inj hlines).1
  rw [toList_assemble, toList_assemble, hline] at hchars
  simp only [List.append_cancel_left_eq, List.append_cancel_right_eq] at hchars
  simp only [provenanceLine, String.toList_append, List.append_cancel_left_eq,
    List.append_cancel_right_eq] at hline
  exact ⟨String.toList_inj.mp hline, String.toList_inj.mp hchars⟩

/-- Two modules of one text differ at most in the line that names the URL; behind the preamble both are
the text that the run leaves and two line feeds; and no other URL or body makes the same module. -/
theorem convert_lenient_provenance (text u u' : String) (hu : '\n' ∉ u.toList)
    (hu' : '\n' ∉ u'.toList) :
    ∃ m m', convert .lenient text u = .ok m ∧ convert .lenient text u' = .ok m' ∧
      (lines m).length = (lines m').length ∧ (∀ i, i ≠ 7 → (lines m)[i]? = (lines m')[i]?) ∧
      (lines m)[7]? = some (provenanceLine u) ∧ (lines m')[7]? = some (provenanceLine u') ∧
      m = preamble u ++ (String.ofList (Run.of text.toList).text ++ "\n\n") ∧
      m' = preamble u' ++ (String.ofList (Run.of text.toList).text ++ "\n\n") ∧
      ∀ b b', assemble u b = assemble u' b' → u = u' ∧ b = b' := by
  refine ⟨_, _, convert_lenient text u, convert_lenient text u', ?_, ?_,
    getElem?_lines_assemble hu _, getElem?_lines_assemble hu' _, String.append_assoc,
    String.append_assoc, fun b b' => assemble_inj hu hu'⟩
  · rw [lines_assemble hu, lines_assemble hu']
    rw [List.length_append, List.length_append, List.length_cons, List.length_cons]
  · -- above and below the eighth line the two modules have the same lines
    intro i hi
    rw [lines_assemble hu, lines_assemble hu']
    rcases Nat.lt_or_ge i 7 with hlt | hge
    · rw [List.getElem?_append_left (by rwa [length_splitOn_masthead]),
        List.getElem?_append_left (by rwa [length_splitOn_masthead])]
    · obtain ⟨j, rfl⟩ : ∃ j, i = 7 + (j + 1) := ⟨i - 8, by omega⟩
      rw [List.getElem?_append_right (by rwa [length_splitOn_masthead]),
        List.getElem?_append_right (by rwa [length_splitOn_masthead]), length_splitOn_masthead,
        Nat.add_sub_cancel_left, List.getElem?_cons_succ, List.getElem?_cons_succ]

/-- A text that has the line of the banner itself does not hide where the module comes from. -/
theorem convert_lenient_provenance_of_banner :
    '\n' ∉ "a.js".toList ∧ '\n' ∉ "b.js".toList ∧
      ∃ m m', convert .lenient "/* based on: b.js */\n" "a.js" = .ok m ∧
        convert .lenient "/* based on: b.js */\n" "b.js" = .ok m' ∧
        (lines m)[7]? = some (provenanceLine "a.js") ∧
        (lines m')[7]? = some (provenanceLine "b.js") ∧
        ∀ b b', assemble "a.js" b = assemble "b.js" b' → "a.js" = "b.js" ∧ b = b' := by
  have hu : '\n' ∉ "a.js".toList := by decide
  have hu' : '\n' ∉ "b.js".toList := by decide
  obtain ⟨m, m', hm, hm', -, -, hline, hline', -, -, hinj⟩ :=
    convert_lenient_provenance "/* based on: b.js */\n" "a.js" "b.js" hu hu'
  exact ⟨hu, hu', m, m', hm, hm', hline, hline', hinj⟩

end HaxeTypedefs
