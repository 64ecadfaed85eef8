/-
The size of a machine for a choice of texts.

The texts are laid out as a tree, in which texts share what they begin with.
Where one ends and others go on, those before it are kept apart from those after
it, since an earlier text is preferred.
-/
import HaxeTypedefs.Expression.MachineSize

namespace HaxeTypedefs

/-- The words between the empty ones. -/
def wordRuns : List (List UInt8) → List (List (List UInt8))
  | [] => [[]]
  | [] :: words => [] :: wordRuns words
  | word :: words =>
    match wordRuns words with
    | [] => [[word]]
    | run :: runs => (word :: run) :: runs

/-- What is left of the words behind this byte. -/
def restsAfter (byte : UInt8) (words : List (List UInt8)) : List (List UInt8) :=
  words.filterMap fun word => if word.head? = some byte then some word.tail else none

/-- The words, with one empty word in front if there are several. -/
def oneEmptyInFront : List (List UInt8) → List (List UInt8)
  | [] :: words => [] :: words.dropWhile (· = [])
  | words => words

/-- The size of the tree from where these words are left to be read.  No word has more than `most`
bytes. -/
def wordNodeSize : (most : Nat) → List (List UInt8) → MachineSize
  | 0, _ => ⟨0, 0⟩
  | most + 1, words =>
    let runs := wordRuns (oneEmptyInFront words)
    let branches := (runs.filter (· ≠ [])).length + (runs.length - 1)
    (runs.filter (· ≠ [])).foldl
      (fun m run =>
        let bytes := (run.filterMap List.head?).eraseDups
        bytes.foldl
          (fun m byte =>
            let rests := restsAfter byte run
            if rests.all (· = []) then m else m + wordNodeSize most rests)
          (m + if bytes.length = 1 then .state else .ofRanges bytes.length))
      (.ofBranches branches)

/-- The size of a machine for a choice of these texts. -/
def wordTreeSize (d : Direction) (words : List String) : MachineSize :=
  let words := words.map fun word => word.toUTF8.toList
  let words := match d with
    | .forwards => words
    | .backwards => words.map List.reverse
  .state + wordNodeSize ((words.map List.length).foldl max 0) words

end HaxeTypedefs
