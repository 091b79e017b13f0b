/-
# Version

The version of the library. A version before a release carries the release's name behind a hyphen.
-/

namespace Clearance

/-- The version text, with the name of a pre-release if there is one. -/
def version (preRelease : Option String) : String :=
  match preRelease with
  | some name => if name.isEmpty then "0.1.0" else "0.1.0-" ++ name
  | none => "0.1.0"

end Clearance
