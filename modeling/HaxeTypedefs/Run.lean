/-
A run of the rules over a text.

`Run.of` applies every rule in order and keeps the text after each of them;
`Run.text` is the last one and `Run.report` says how many replacements each rule
has made.

* **`Run.map_rule_steps`** — every rule is applied once, in order.
-/
import HaxeTypedefs.Rule

namespace HaxeTypedefs

/-- A rule that has been applied, its replacements, and the text it left. -/
structure Step where
  rule : Rule
  count : Nat
  text : List Char
  deriving DecidableEq, Repr

/-- How many replacements the rules have made. -/
structure Report where
  /-- in the order of application -/
  counts : List (Rule × Nat)
  deriving DecidableEq, Repr

namespace Report

/-- The report of a run that no rule has taken part in. -/
def empty : Report := ⟨[]⟩

/-- The replacements of a rule; none if the report does not have it. -/
def count (r : Report) (rule : Rule) : Nat :=
  (r.counts.lookup rule).getD 0

/-- The rules that have replaced nothing. -/
def unmatched (r : Report) : List Rule :=
  (r.counts.filter fun entry => entry.2 == 0).map Prod.fst

end Report

structure Run where
  start : List Char
  steps : List Step
  deriving DecidableEq, Repr

namespace Run

/-- The steps of the rules, each on the text that the one before has left. -/
def stepsFrom : List Rule → List Char → List Step
  | [], _ => []
  | rule :: rules, text =>
    let outcome := rule.apply text
    ⟨rule, outcome.count, outcome.text⟩ :: stepsFrom rules outcome.text

/-- Applies every rule in order. -/
def of (text : List Char) : Run :=
  ⟨text, stepsFrom Rule.all text⟩

/-- The text that the last step has left. -/
def text (r : Run) : List Char :=
  (r.steps.getLast?.map Step.text).getD r.start

def report (r : Run) : Report :=
  ⟨r.steps.map fun step => (step.rule, step.count)⟩

theorem map_rule_stepsFrom (rules : List Rule) (text : List Char) :
    (stepsFrom rules text).map Step.rule = rules := by
  induction rules generalizing text with
  | nil => rfl
  | cons rule rules ih => simp [stepsFrom, ih]

theorem map_rule_steps (text : List Char) : (of text).steps.map Step.rule = Rule.all :=
  map_rule_stepsFrom _ _

end Run

end HaxeTypedefs
