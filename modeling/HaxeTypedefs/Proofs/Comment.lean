/-
Comments of a Haxe text.

A comment runs from `//` to the end of its line, or from `/*` to the next `*/`; what
looks like the start of a comment inside another one means nothing.  `Region.live` is what
is left of a text without its comments, and `Region.after` tells where the text ends.

* **`Region.after_line`**, **`Region.live_line`** — a comment that goes to the end of the line;
* **`Region.live_append_of_not_mem`** — what has no slash is code as it stands;
* **`Region.hides`**, **`Region.along`** — which characters belong to comments, and to which kind.
-/
import HaxeTypedefs.Rule

namespace HaxeTypedefs

/-- Where a text is read: in the code or in a comment. -/
inductive Region where
  | code
  | lineComment
  | blockComment
  deriving DecidableEq, Repr

namespace Region

/-- The text without its comments.  A blank stands for a comment, and the line feed behind a line
comment stays. -/
def live : Region → List Char → List Char
  | _, [] => []
  | code, '/' :: '/' :: w => ' ' :: live lineComment w
  | code, '/' :: '*' :: w => ' ' :: live blockComment w
  | code, c :: w => c :: live code w
  | lineComment, c :: w => if c = '\n' then c :: live code w else live lineComment w
  | blockComment, '*' :: '/' :: w => live code w
  | blockComment, _ :: w => live blockComment w

/-- Where one is behind the text. -/
def after : Region → List Char → Region
  | region, [] => region
  | code, '/' :: '/' :: w => after lineComment w
  | code, '/' :: '*' :: w => after blockComment w
  | code, _ :: w => after code w
  | lineComment, c :: w => if c = '\n' then after code w else after lineComment w
  | blockComment, '*' :: '/' :: w => after code w
  | blockComment, _ :: w => after blockComment w

/-- For each character whether it belongs to a comment, or to the marks around one. -/
def hides : Region → List Char → List Bool
  | _, [] => []
  | code, '/' :: '/' :: w => true :: true :: hides lineComment w
  | code, '/' :: '*' :: w => true :: true :: hides blockComment w
  | code, _ :: w => false :: hides code w
  | lineComment, c :: w => if c = '\n' then false :: hides code w else true :: hides lineComment w
  | blockComment, '*' :: '/' :: w => true :: true :: hides code w
  | blockComment, _ :: w => true :: hides blockComment w

/-- For each character the region that it belongs to.  The marks around a comment belong to the
comment, the line feed behind a line comment does not. -/
def along : Region → List Char → List Region
  | _, [] => []
  | code, '/' :: '/' :: w => lineComment :: lineComment :: along lineComment w
  | code, '/' :: '*' :: w => blockComment :: blockComment :: along blockComment w
  | code, _ :: w => code :: along code w
  | lineComment, c :: w =>
    if c = '\n' then code :: along code w else lineComment :: along lineComment w
  | blockComment, '*' :: '/' :: w => blockComment :: blockComment :: along code w
  | blockComment, _ :: w => blockComment :: along blockComment w

/-- The characters that comments hide are those outside of the code. -/
theorem hides_eq_map_along (region : Region) (text : List Char) :
    region.hides text = (region.along text).map (· != code) := by
  fun_induction along region text <;> simp_all [hides]

variable {v w : List Char}

theorem live_line (h : '\n' ∉ v) : live lineComment (v ++ '\n' :: w) = '\n' :: live code w := by
  induction v with
  | nil => rfl
  | cons c v ih =>
    rw [List.mem_cons, not_or] at h
    rw [List.cons_append, live, if_neg (Ne.symm h.1), ih h.2]

theorem live_lastLine (h : '\n' ∉ v) : live lineComment v = [] := by
  induction v with
  | nil => rfl
  | cons c v ih =>
    rw [List.mem_cons, not_or] at h
    rw [live, if_neg (Ne.symm h.1), ih h.2]

theorem after_line (h : '\n' ∉ v) : after lineComment (v ++ '\n' :: w) = after code w := by
  induction v with
  | nil => rfl
  | cons c v ih =>
    rw [List.mem_cons, not_or] at h
    rw [List.cons_append, after, if_neg (Ne.symm h.1), ih h.2]

theorem live_block (h : '*' ∉ v) : live blockComment (v ++ ("*/".toList ++ w)) = live code w := by
  induction v with
  | nil => rfl
  | cons c v ih =>
    rw [List.mem_cons, not_or] at h
    rw [List.cons_append, live, ih h.2]
    rintro w' rfl
    exact absurd rfl h.1

theorem live_append_of_not_mem (h : '/' ∉ v) : live code (v ++ w) = v ++ live code w := by
  induction v with
  | nil => rfl
  | cons c v ih =>
    rw [List.mem_cons, not_or] at h
    rw [List.cons_append, live, ih h.2, List.cons_append]
    · rintro w' rfl
      exact absurd rfl h.1
    · rintro w' rfl
      exact absurd rfl h.1

/-- A character opens no comment in front of one that is neither a slash nor a star. -/
theorem hides_code_cons {c : Char} (h : c = '/' → ∀ d ∈ w.head?, d ≠ '/' ∧ d ≠ '*') :
    hides code (c :: w) = false :: hides code w := by
  rw [hides]
  · rintro w' hc rfl
    exact (h hc '/' rfl).1 rfl
  · rintro w' hc rfl
    exact (h hc '*' rfl).2 rfl

theorem hides_line_of_not_mem (h : '\n' ∉ v) :
    hides lineComment (v ++ w) = List.replicate v.length true ++ hides lineComment w := by
  induction v with
  | nil => rfl
  | cons c v ih =>
    rw [List.mem_cons, not_or] at h
    rw [List.cons_append, hides, if_neg (Ne.symm h.1), ih h.2]
    rfl

end Region

/-- The text is comments and white space. -/
def AllComment (text : List Char) : Prop :=
  ∀ c ∈ Region.code.live text, isBlank c = true

end HaxeTypedefs
