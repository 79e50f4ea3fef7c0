/-!
# References in command templates

A template names values as `{{key}}`. `expand` replaces the references of one key after the other,
each in one pass over what the keys before it left.
-/

namespace Testbed.Text

/-- Replace every occurrence of the non-empty pattern `p :: ps`, from the left and without
overlaps. -/
def replaceAll (p : Char) (ps new : List Char) : List Char → List Char
  | [] => []
  | c :: rest =>
    if c = p ∧ ps.isPrefixOf rest then new ++ replaceAll p ps new (rest.drop ps.length)
    else c :: replaceAll p ps new rest
termination_by cs => cs.length
decreasing_by all_goals simp only [List.length_drop, List.length_cons]; omega

/-- A reference to a key after its first brace. -/
def referenceTail (key : String) : List Char := '{' :: key.toList ++ ['}', '}']

/-- How a template refers to a key. -/
def reference (key : String) : List Char := '{' :: referenceTail key

/-- Replace every reference to one key. -/
def expandOne (text : List Char) (ref : String × String) : List Char :=
  replaceAll '{' (referenceTail ref.1) ref.2.toList text

/-- Replace the references to the listed keys, in their order; other references stay. -/
def expand (template : String) (refs : List (String × String)) : String :=
  String.ofList (refs.foldl expandOne template.toList)

end Testbed.Text
