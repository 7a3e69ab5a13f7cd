import QueryLint.Command

/-! The command line: reads what is around, does what the arguments say, and writes the outcome. -/

set_option autoImplicit false

namespace QueryLint

/-- A file or a directory with all that is in it. -/
partial def readEntry (entry : IO.FS.DirEntry) : IO FileTree := do
  if ← entry.path.isDir then
    let inner ← entry.path.readDir
    let trees ← inner.toList.mapM fun e => do pure (e.fileName, ← readEntry e)
    pure (.directory trees)
  else
    pure (.file (← IO.FS.readBinFile entry.path))

/-- The working directory with all that is in it. -/
def readProject : IO FileTree := do
  let here ← IO.currentDir
  let entries ← here.readDir
  let trees ← entries.toList.mapM fun e => do pure (e.fileName, ← readEntry e)
  pure (.directory trees)

/-- The settings files of the user. -/
def readHome : IO FileTree := do
  match ← IO.getEnv "HOME" with
  | none => pure (.directory [])
  | some home =>
    let found ← Settings.fileNames.filterMapM fun name => do
      try
        let path : String := home ++ "/" ++ name
        let content ← IO.FS.readBinFile path
        pure (some (name, FileTree.file content))
      catch _ => pure none
    pure (.directory found)

def readEnvironment : IO Environment := do
  let stdout ← IO.getStdout
  let force ← IO.getEnv "CLICOLOR_FORCE"
  let none_ ← IO.getEnv "NO_COLOR"
  pure {
    project := ← readProject
    home := ← readHome
    isTerminal := ← stdout.isTty
    noColor := none_.isSome
    forceColor := force.any (· ≠ "0") }

end QueryLint

open QueryLint in
def main (arguments : List String) : IO UInt32 := do
  let env ← readEnvironment
  let input ← if Command.readsInput env arguments then (← IO.getStdin).readBinToEnd else pure .empty
  let outcome := Command.execute { env with input := input } arguments
  let stdout ← IO.getStdout
  stdout.write ⟨outcome.output.toArray⟩
  stdout.flush
  let stderr ← IO.getStderr
  for entry in outcome.log do
    stderr.putStrLn entry.display
  stderr.putStr outcome.errors
  pure outcome.exit.toUInt32
