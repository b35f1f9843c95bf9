import ProtoCheck.Language.Compile
import ProtoCheck.Run

/-!
# The command line

The program reads from the disk what a run opens, runs and writes what the run leaves.

* `probe` : what stands at a place of the disk;
* `gather` : the part of the disk that a run opens;
* `main` : the program.
-/

namespace ProtoCheck

/-- What stands at a place of the disk, if anything: what is there and is no file that can be read
is a directory. -/
def probe (place : Place) : IO (Option TreeNode) := do
  let path := "/" ++ "/".intercalate (place.map String.ofList)
  try
    let content ← IO.FS.readBinFile path
    return some (.file content.toList)
  catch
    | .noFileOrDirectory .. => return none
    | _ => return some .directory

/-- Adds to a tree what stands at a place and around it. -/
def explore (t : Tree) (place : Place) : IO Tree := do
  let mut t := t
  for i in List.range place.length do
    let p := place.take (i + 1)
    if (t.nodes.lookup p).isNone then
      if let some n ← probe p then
        t := { t with nodes := t.nodes ++ [(p, n)] }
  return t

/-- The places that a path leads through, from a place on. Leaving a directory leads back to where
it stands. -/
def placesOf (start : Place) (parts : List (List Char)) : List Place :=
  (parts.foldl (fun (ps, p) part =>
    let p := if part == Path.up then p.dropLast
      else if part.isEmpty || part == ['.'] then p else p ++ [part]
    (ps ++ [p], p)) ([], start)).1

/-- The part of the disk that a run opens. What is opened depends on what is found, so it is asked
again until nothing new is. -/
partial def gather (h : Host) (args : List String) (seen : List String) : IO Host := do
  match (h.opened args).filter fun p => !seen.contains p && !p.contains '\x00' with
  | [] => return h
  | paths =>
    let mut t := h.tree
    for path in paths do
      let s := path.toList
      let start := if s.head? == some '/' then [] else t.current
      for place in placesOf start (Text.pieces (· == '/') s) do
        t ← explore t place
    gather { h with tree := t } args (seen ++ paths)

/-- The settings in the environment. -/
def environment : IO Environment :=
  return ⟨← IO.getEnv "TEXTPROTO_VALIDATOR_IMPORT_PATH",
    ← IO.getEnv "TEXTPROTO_VALIDATOR_LOG_LEVEL", ← IO.getEnv "TEXTPROTO_VALIDATOR_SOURCE_ROOT"⟩

end ProtoCheck

open ProtoCheck in
/-- The program. -/
def main (args : List String) : IO UInt32 := do
  let current := Path.namedParts (← IO.currentDir).toString.toList
  let compiler : Schema.Compiler := ⟨["protoc"], "staging", Language.answer⟩
  let h ← gather ⟨⟨current, []⟩, ← environment, compiler⟩ args []
  let s := h.run args
  IO.print s.printed.out
  IO.eprint s.printed.err
  match s.ending with
  | .exit n => return n.toUInt32
  | .broken b =>
    IO.eprintln (reprStr b)
    return 1
