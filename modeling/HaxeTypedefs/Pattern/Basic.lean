/-
Patterns of text, and where they can end.

A `Place` is a point in a text: the character before it and everything ahead.
`Pattern.ends p s` lists every place at which a reading of `p` that begins at
`s` can end, the preferred reading first, so the choice between `most` and
`fewest` and between alternatives is the order of a list and nothing else.
Only single characters are repeated, which is why every list is finite.

* **`Pattern.exists_of_mem_ends`** — a reading only reads: what is ahead of an
  end is what was ahead of the start, less the characters read.
-/
import HaxeTypedefs.Text.Word

namespace HaxeTypedefs

/-- Which characters may stand in one position. -/
inductive CharClass where
  | word
  | blank
  /-- every character but the line feed -/
  | inLine
  | any
  | among (cs : List Char)
  deriving DecidableEq, Repr

/-- The class has the character. -/
def CharClass.has : CharClass → Char → Bool
  | word, c => isWord c
  | blank, c => isBlank c
  | inLine, c => c != '\n'
  | any, _ => true
  | among cs, c => cs.contains c

/-- How long a repetition would like to be. -/
inductive Preference where
  | most
  | fewest
  deriving DecidableEq, Repr

inductive Pattern where
  | nothing
  | text (w : List Char)
  | one (c : CharClass)
  /-- at least `least` characters of one class -/
  | run (c : CharClass) (least : Nat) (wish : Preference)
  /-- the pattern if it can be read, and nothing otherwise -/
  | maybe (p : Pattern)
  | either (p q : Pattern)
  | seq (p q : Pattern)
  /-- the start of the text or the place after a line feed -/
  | lineStart
  /-- a place with a word character on exactly one side -/
  | wordEdge
  deriving DecidableEq, Repr

instance : Coe String Pattern := ⟨fun w => .text w.toList⟩

/-- The patterns one after the other. -/
def Pattern.inOrder : List Pattern → Pattern
  | [] => .nothing
  | [p] => p
  | p :: ps => .seq p (inOrder ps)

/-- A point in a text. -/
structure Place where
  /-- the character just before, if any -/
  before : Option Char
  ahead : List Char
  deriving DecidableEq, Repr

namespace Place

/-- The place before the first character of the text. -/
def start (text : List Char) : Place := ⟨none, text⟩

/-- The place after reading exactly these characters, if they are ahead. -/
def read? : List Char → Place → Option Place
  | [], s => some s
  | _ :: _, ⟨_, []⟩ => none
  | x :: w, ⟨_, c :: rest⟩ => if x = c then read? w ⟨some c, rest⟩ else none

/-- The places after reading no, one, two and more characters of the class, in this
order, as long as there are any. -/
def along (k : CharClass) : Option Char → List Char → List Place
  | before, [] => [⟨before, []⟩]
  | before, c :: rest =>
    ⟨before, c :: rest⟩ :: if k.has c then along k (some c) rest else []

def atLineStart (s : Place) : Bool :=
  s.before.all (· == '\n')

def atWordEdge (s : Place) : Bool :=
  s.before.any isWord != s.ahead.head?.any isWord

/-- The characters between this place and a later one of the same text. -/
def textTo (s t : Place) : List Char :=
  s.ahead.take (s.ahead.length - t.ahead.length)

end Place

/-- Every place where a reading of the pattern can end, the preferred one first. -/
def Pattern.ends : Pattern → Place → List Place
  | nothing, s => [s]
  | text w, s => (s.read? w).toList
  | one _, ⟨_, []⟩ => []
  | one k, ⟨_, c :: rest⟩ => if k.has c then [⟨some c, rest⟩] else []
  | run k least .most, s => ((Place.along k s.before s.ahead).drop least).reverse
  | run k least .fewest, s => (Place.along k s.before s.ahead).drop least
  | maybe p, s => p.ends s ++ [s]
  | either p q, s => p.ends s ++ q.ends s
  | seq p q, s => (p.ends s).flatMap q.ends
  | lineStart, s => if s.atLineStart then [s] else []
  | wordEdge, s => if s.atWordEdge then [s] else []

/-! A reading of a pattern moves over the text without changing it. -/

/-- The second place lies ahead of the first in the same text, the given characters
between them. -/
inductive Place.Reaches : Place → List Char → Place → Prop
  | here (s : Place) : Reaches s [] s
  | step {b : Option Char} {c : Char} {rest w : List Char} {t : Place} :
      Reaches ⟨some c, rest⟩ w t → Reaches ⟨b, c :: rest⟩ (c :: w) t

namespace Place.Reaches

theorem ahead_eq {s t : Place} {w : List Char} (h : s.Reaches w t) :
    s.ahead = w ++ t.ahead := by
  induction h with
  | here => rfl
  | step _ ih => simpa using ih

theorem trans {s t u : Place} {v w : List Char} (h : s.Reaches v t) (h' : t.Reaches w u) :
    s.Reaches (v ++ w) u := by
  induction h with
  | here => exact h'
  | step _ ih => exact .step (ih h')

theorem textTo_eq {s t : Place} {w : List Char} (h : s.Reaches w t) : s.textTo t = w := by
  simp [Place.textTo, h.ahead_eq]

end Place.Reaches

theorem Place.reaches_of_read? {w : List Char} {s t : Place} (h : s.read? w = some t) :
    s.Reaches w t := by
  induction w generalizing s with
  | nil => cases h; exact .here _
  | cons x w ih =>
    obtain ⟨b, ahead⟩ := s
    cases ahead with
    | nil => simp [read?] at h
    | cons c rest =>
      simp only [read?] at h
      split at h
      · rename_i hx
        subst hx
        exact .step (ih h)
      · cases h

theorem Place.exists_of_mem_along {k : CharClass} {b : Option Char} {ahead : List Char} {t : Place}
    (h : t ∈ along k b ahead) : ∃ w, Reaches ⟨b, ahead⟩ w t ∧ ∀ c ∈ w, k.has c = true := by
  induction ahead generalizing b with
  | nil =>
    obtain rfl := List.mem_singleton.mp h
    exact ⟨[], .here _, by simp⟩
  | cons c rest ih =>
    rcases List.mem_cons.mp h with rfl | h
    · exact ⟨[], .here _, by simp⟩
    · split at h
      · rename_i hc
        obtain ⟨w, hw, hall⟩ := ih h
        exact ⟨c :: w, .step hw, by simpa [hc] using hall⟩
      · cases h

theorem Pattern.exists_of_mem_ends {p : Pattern} {s t : Place} (h : t ∈ p.ends s) :
    ∃ w, s.Reaches w t := by
  induction p generalizing s t with
  | nothing => obtain rfl := List.mem_singleton.mp h; exact ⟨[], .here _⟩
  | text w => exact ⟨w, Place.reaches_of_read? (by simpa [ends] using h)⟩
  | one k =>
    obtain ⟨b, ahead⟩ := s
    cases ahead with
    | nil => cases h
    | cons c rest =>
      simp only [ends] at h
      split at h
      · obtain rfl := List.mem_singleton.mp h; exact ⟨[c], .step (.here _)⟩
      · cases h
  | run k least wish =>
    have h : t ∈ Place.along k s.before s.ahead := by
      cases wish
      · exact List.mem_of_mem_drop (List.mem_reverse.mp h)
      · exact List.mem_of_mem_drop h
    obtain ⟨w, hw, -⟩ := Place.exists_of_mem_along h
    exact ⟨w, hw⟩
  | maybe p ih =>
    rcases List.mem_append.mp h with h | h
    · exact ih h
    · obtain rfl := List.mem_singleton.mp h; exact ⟨[], .here _⟩
  | either p q ihp ihq =>
    rcases List.mem_append.mp h with h | h
    · exact ihp h
    · exact ihq h
  | seq p q ihp ihq =>
    obtain ⟨u, hu, ht⟩ := List.mem_flatMap.mp h
    obtain ⟨v, hv⟩ := ihp hu
    obtain ⟨w, hw⟩ := ihq ht
    exact ⟨v ++ w, hv.trans hw⟩
  | lineStart =>
    simp only [ends] at h
    split at h
    · obtain rfl := List.mem_singleton.mp h; exact ⟨[], .here _⟩
    · cases h
  | wordEdge =>
    simp only [ends] at h
    split at h
    · obtain rfl := List.mem_singleton.mp h; exact ⟨[], .here _⟩
    · cases h

end HaxeTypedefs
