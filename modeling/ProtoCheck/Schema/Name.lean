import ProtoCheck.Failure

/-!
# Names of schemas

A compiler knows a schema by its name below an import root: the resolved path without slashes in
front. A path that leads out of the root has no name.

* `virtualName?` : the name of a schema path;
* `outsideRoots` : the failure of a path that has none.
-/

namespace ProtoCheck.Schema

/-- The name of a schema path below an import root. -/
def virtualName? (path : String) : Option String :=
  let name := (normalised path).toList.dropWhile (· == '/')
  if name == Path.up || (Text.after? (Path.up ++ ['/']) name).isSome then none
  else some (String.ofList name)

/-- The failure of a schema path that leads out of the import roots. -/
def outsideRoots (path : String) : Failure :=
  Failure.schemaCompile (path ++ ": schema path must be relative to an import path") [] none none

end ProtoCheck.Schema
