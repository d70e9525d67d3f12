import Dirlang.Path.Component
import Dirlang.Text.Utf8

/-!
Reporting the paths that a search found: relative to where it was asked from, and as texts.
-/

namespace Dirlang.Glob

/-- What is shown of a path found from `base`; one that does not lie there is shown whole. -/
def shown (base : Option RawPath) (path : RawPath) : RawPath :=
  (base.bind path.stripBase?).getD path

/-- The texts of the paths found, in order; those that could not be read are left out. -/
def report {ε : Type} (base : Option RawPath) (found : List (Except ε RawPath)) : List String :=
  found.filterMap fun
    | .ok path => some (Text.lossy (shown base path))
    | .error _ => none

end Dirlang.Glob
