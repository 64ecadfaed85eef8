/-
What a strict conversion adds to a lenient one.

A strict conversion makes the same module, or fails and names the rules that have been of
no use.  These are the rules whose step has left the running text as it was: the report
tells them by their counts, the failure lists them, and its message can be read back.

* **`Run.unmatched_report`** — the report finds the rules of no use;
* **`Failure.message_inj`** — no other rules have the same message;
* **`convert_strict`** — strict conversions, and what the failure says.
-/
import Mathlib.Data.List.Forall2
import HaxeTypedefs.Conversion
import HaxeTypedefs.Proofs.Tally

namespace HaxeTypedefs

namespace Run

/-- The rules whose step has left the running text as it was. -/
def idle (r : Run) : List Rule :=
  Rule.all.filter fun rule => r.texts[rule.number - 1]? == r.texts[rule.number]?

theorem counts_report (text : List Char) :
    (of text).report.counts = Rule.all.map fun r => (r, (of text).report.count r) := by
  refine List.ext_getElem? fun i => ?_
  rw [List.getElem?_map]
  cases hi : Rule.all[i]? with
  | none =>
    have hlen : (of text).report.counts.length = Rule.all.length := by
      rw [← map_rule_steps text, report, List.length_map, List.length_map]
    rw [List.getElem?_eq_none_iff] at hi
    rw [Option.map_none, List.getElem?_eq_none_iff, hlen]
    exact hi
  | some r =>
    -- the entry at this place is of the step at this place, which is the only one of its rule
    obtain ⟨before, -, hstep, hcount⟩ := exists_step_stepsFrom (by decide) text hi
    have hcount' : (of text).report.count r = (r.apply before).count := hcount
    rw [report, List.getElem?_map, of, hstep, Option.map_some, Option.map_some]
    exact congrArg (fun n => some (r, n)) hcount'.symm

/-- The rules without replacements are those whose step has left the running text as it was. -/
theorem unmatched_report (text : List Char) : (of text).report.unmatched = (of text).idle := by
  rw [Report.unmatched, counts_report, List.filter_map, List.map_map]
  have hfst : (Prod.fst ∘ fun r => (r, (of text).report.count r)) = (id : Rule → Rule) := rfl
  rw [hfst, List.map_id, idle]
  refine List.filter_congr fun r _ => ?_
  obtain ⟨before, hbefore, hafter, -, hcount⟩ := exists_step text r
  rw [Function.comp_apply, hbefore, hafter, Bool.eq_iff_iff, beq_iff_eq, beq_iff_eq, hcount,
    Rule.count_eq_zero_iff, Option.some_inj, eq_comm]

end Run

/-! ### Messages -/

/-- Texts without the first character of the separator can be read back from what they make
together. -/
theorem intercalate_inj {c : Char} {sep : List Char} {ls ls' : List (List Char)}
    (hls : ∀ l ∈ ls, l ≠ [] ∧ c ∉ l) (hls' : ∀ l ∈ ls', l ≠ [] ∧ c ∉ l)
    (h : (c :: sep).intercalate ls = (c :: sep).intercalate ls') : ls = ls' := by
  -- what comes behind the first text begins with the separator
  have hcons : ∀ (l : List Char) (ls : List (List Char)), ∃ t,
      (c :: sep).intercalate (l :: ls) = l ++ t ∧ t.head?.any (· != c) = false ∧
        (ls = [] ∧ t = [] ∨ ls ≠ [] ∧ t = c :: (sep ++ (c :: sep).intercalate ls)) := by
    intro l ls
    cases ls with
    | nil => exact ⟨[], by simp, rfl, .inl ⟨rfl, rfl⟩⟩
    | cons m ls =>
      refine ⟨_, ?_, ?_, .inr ⟨by simp, rfl⟩⟩
      · simp [List.intercalate_cons_cons]
      · simp
  -- the first separator that stands in a text ends its first part
  induction ls generalizing ls' with
  | nil =>
    cases ls' with
    | nil => rfl
    | cons l' ls' =>
      obtain ⟨t, ht, -⟩ := hcons l' ls'
      rw [ht, List.intercalate_nil] at h
      exact absurd (List.append_eq_nil_iff.mp h.symm).1 (hls' l' List.mem_cons_self).1
  | cons l ls ih =>
    obtain ⟨t, ht, hhead, htail⟩ := hcons l ls
    cases ls' with
    | nil =>
      rw [ht, List.intercalate_nil] at h
      exact absurd (List.append_eq_nil_iff.mp h).1 (hls l List.mem_cons_self).1
    | cons l' ls' =>
      obtain ⟨t', ht', hhead', htail'⟩ := hcons l' ls'
      obtain ⟨⟨-, hl⟩, hrest⟩ := List.forall_mem_cons.mp hls
      obtain ⟨⟨-, hl'⟩, hrest'⟩ := List.forall_mem_cons.mp hls'
      rw [ht, ht'] at h
      obtain ⟨rfl, rfl⟩ := span_unique h (forall_bne_iff.mpr hl) (forall_bne_iff.mpr hl') hhead hhead'
      rcases htail with ⟨rfl, rfl⟩ | ⟨-, rfl⟩ <;> rcases htail' with ⟨rfl, heq⟩ | ⟨-, heq⟩
      · rfl
      · cases heq
      · cases heq
      · rw [ih hrest hrest' (List.append_cancel_left (List.cons.inj heq).2)]

namespace Failure

/-- A rule as the message names it. -/
def label (r : Rule) : String :=
  toString r.number ++ " (" ++ r.name ++ ")"

theorem label_ne_nil_and_not_mem (r : Rule) : (label r).toList ≠ [] ∧ ',' ∉ (label r).toList := by
  cases r <;> decide

theorem label_inj {r r' : Rule} (h : label r = label r') : r = r' := by
  have key : ∀ r ∈ Rule.all, ∀ r' ∈ Rule.all, label r = label r' → r = r' := by decide +kernel
  exact key r r.mem_all r' r'.mem_all h

theorem toList_message (rs : List Rule) : (unmatched rs).message.toList =
    "rewrite rules matched nothing: ".toList ++
      ", ".toList.intercalate ((rs.map label).map String.toList) := by
  show ("rewrite rules matched nothing: " ++ ", ".intercalate (rs.map label)).toList = _
  rw [String.toList_append, String.toList_intercalate]

/-- The message tells which rules it is about, and in which order. -/
theorem message_inj {rs rs' : List Rule}
    (h : (unmatched rs).message = (unmatched rs').message) : rs = rs' := by
  have hchars := congrArg String.toList h
  rw [toList_message, toList_message, List.append_cancel_left_eq] at hchars
  have hlabels : ∀ rs : List Rule, ∀ l ∈ (rs.map label).map String.toList, l ≠ [] ∧ ',' ∉ l := by
    intro rs l hl
    rw [List.map_map] at hl
    obtain ⟨r, -, rfl⟩ := List.mem_map.mp hl
    exact label_ne_nil_and_not_mem r
  have hmap := intercalate_inj (hlabels rs) (hlabels rs') hchars
  rw [List.map_map, List.map_map] at hmap
  refine List.map_injective_iff.mpr (fun r r' hr => ?_) hmap
  exact label_inj (String.toList_inj.mp hr)

end Failure

/-- A strict conversion fails exactly if some rule has left the running text as it was, with all these
rules in their order, and otherwise makes the module that a lenient conversion always makes.  The report
has one entry for each rule, in order, which is where its count is looked up; the message names each of
the rules by its number, counted from one, and its name, and it names no others. -/
theorem convert_strict (text provenance : String) :
    (convert .strict text provenance =
      if (Run.of text.toList).idle ≠ [] then .error (.unmatched (Run.of text.toList).idle)
      else convert .lenient text provenance) ∧
    (∃ m, convert .lenient text provenance = .ok m) ∧
    ((Run.of text.toList).report.counts.map Prod.fst = Rule.all ∧
      ∀ r n, (r, n) ∈ (Run.of text.toList).report.counts →
        (Run.of text.toList).report.count r = n) ∧
    (∃ labels, (Failure.unmatched (Run.of text.toList).idle).message =
        "rewrite rules matched nothing: " ++ ", ".intercalate labels ∧
      List.Forall₂ (fun r label => ∃ i, Rule.all[i]? = some r ∧
        label = toString (i + 1) ++ " (" ++ r.name ++ ")") (Run.of text.toList).idle labels) ∧
    ∀ rs, (Failure.unmatched rs).message =
      (Failure.unmatched (Run.of text.toList).idle).message → rs = (Run.of text.toList).idle := by
  refine ⟨?_, ⟨_, convert_lenient text provenance⟩, ⟨?_, ?_⟩, ?_, fun rs => Failure.message_inj⟩
  · rw [convert_lenient, convert, Run.finish, Run.unmatched_report]
    by_cases h : (Run.of text.toList).idle = [] <;> simp [h]
  · rw [Run.counts_report, List.map_map]
    exact List.map_id _
  · intro r n hmem
    rw [Run.counts_report] at hmem
    obtain ⟨r', -, h⟩ := List.mem_map.mp hmem
    cases h
    rfl
  · refine ⟨(Run.of text.toList).idle.map Failure.label, rfl, ?_⟩
    rw [List.forall₂_map_right_iff, List.forall₂_same]
    exact fun r _ => ⟨r.number - 1, r.getElem?_all_number, rfl⟩

end HaxeTypedefs
