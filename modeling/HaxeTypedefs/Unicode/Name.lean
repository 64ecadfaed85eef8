/-
Names of properties of characters and of their values.

Names match loosely: capital and small letters, spaces, hyphens and underscores
make no difference, nor does `is` in front.

* **`isLooselyOneOf`** — a text is one of several names.
-/

namespace HaxeTypedefs

/-- What counts of a name. -/
def looseName (name : String) : String :=
  let cs := name.toList
  let isIs (a b : Char) : Bool := a.toLower == 'i' && b.toLower == 's'
  let (begins, rest) : Bool × List Char := match cs with
    | a :: b :: rest => if isIs a b then (true, rest) else (false, cs)
    | _ => (false, cs)
  let kept := (rest.filter fun c => c != ' ' && c != '_' && c != '-' && c.toNat < 0x80).map
    Char.toLower
  -- `isc` is a name, and `c` another one
  String.ofList (if begins && kept == ['c'] then ['i', 's', 'c'] else kept)

def isLooselyOneOf (names : List String) (name : String) : Bool :=
  names.any fun other => looseName other == looseName name

end HaxeTypedefs
