import Stencil.CommandLine.Footprint

/-!
The command: reads the files that a run looks at, runs, and writes what the run leaves behind.
-/
namespace Stencil.Command

-- The environment of this process.
def readEnvironment : IO Environment := do
  let bytes ← IO.FS.readBinFile "/proc/self/environ"
  let entries := (Text.byteParts 0 bytes).filterMap Text.ofUtf8?
  return Dictionary.ofEntries (entries.filterMap fun t => Text.splitFirst '=' (t.takeWhile (· ≠ '\x00')))

-- What is at a path, if there is something.
def readEntry (p : Path) : IO (Option FileTree.Entry) := do
  try
    return some (.file (← IO.FS.readBinFile (String.ofList p.text)))
  catch
    | .noFileOrDirectory .. | .noSuchThing .. => return none
    | .permissionDenied .. => return some (.file ⟨#[0xff]⟩)
    | _ => return some .folder

-- Adds the files that a run looks at, until it looks at no others.
partial def readFiles (env : Environment) (arguments : List Text) (known : List Path) (tree : FileTree) :
    IO FileTree := do
  let fresh := (CommandLine.paths tree env arguments).filter (!known.contains ·)
  if fresh.isEmpty then return tree
  let mut tree := tree
  for p in fresh do
    if let some entry ← readEntry p then tree := tree.write p entry
  readFiles env arguments (known ++ fresh) tree

end Stencil.Command

open Stencil in
def main (arguments : List String) : IO UInt32 := do
  let arguments := arguments.map String.toList
  let env ← Command.readEnvironment
  let folder ← IO.currentDir
  let home := FileTree.parts ⟨folder.toString.toList⟩
  let tree ← Command.readFiles env arguments [] (.empty home)
  let result := CommandLine.run tree env arguments
  IO.print (String.ofList result.output)
  for line in result.errors ++ result.metrics do
    IO.eprintln (String.ofList line)
  return result.exitCode.toUInt32
