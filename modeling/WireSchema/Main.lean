import WireSchema.CommandLine

-- The program. The files it may look at are named on standard input, one path a line; a path that
-- cannot be read as a file counts as a directory. Arguments that ask for no command end with code 2.
namespace WireSchema.Program

def location (here : Location) (path : String) : Location :=
  FileTree.startOf here path ++ (Path.parts path).filter (· ≠ ".")

def addPath (here : Location) (tree : FileTree) (path : String) : IO FileTree := do
  match ← (IO.FS.readBinFile path).toBaseIO with
  | .ok content => pure (tree.withNode (location here path) (.file content.toList))
  | .error _ => pure (tree.withDirectory (location here path))

end WireSchema.Program

open WireSchema

def main (args : List String) : IO UInt32 := do
  match Command.ofArguments? args with
  | none =>
    IO.eprintln "usage: check|dump [-r DIR] [--deprecated] [-o FILE] [PATTERN]..."
    pure 2
  | some command =>
    let here := Path.parts (toString (← IO.currentDir))
    let paths := (← (← IO.getStdin).readToEnd).splitOn "\n"
    let tree ← (paths.filter (!·.isEmpty)).foldlM (Program.addPath here) (FileTree.empty.withDirectory here)
    let outcome := (Workspace.mk tree here).run command
    IO.print outcome.stdout
    IO.eprint outcome.stderr
    if let some (path, content) := outcome.written then
      IO.FS.writeBinFile path ⟨content.toArray⟩
    pure (.ofNat outcome.code)
