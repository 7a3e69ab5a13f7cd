import QueryLint.Files.Glob
import QueryLint.Files.Path
import QueryLint.Log

/-! Which manifests a list of paths stands for. -/

set_option autoImplicit false

namespace QueryLint

inductive SearchError where
  | notFound (path : String)
  | pattern (pattern source : String)
  | unreadable (source : String)
  deriving DecidableEq, Repr

def SearchError.message : SearchError → String
  | .notFound path => s!"no such file or directory: {path}"
  | .pattern text source => s!"Invalid pattern '{text}': {source}"
  | .unreadable source => s!"IO error: {source}"

namespace Search

/-- How the names of manifests end, behind a dot. -/
def extensions : List String := ["yaml", "yml"]

section

variable (glob : Glob) (files : FileTree) (recursive : Bool)

/-- The pattern for files in a directory. -/
def pattern (dir extension : String) : String :=
  glob.escape dir ++ (if recursive then "/**/*." else "/*.") ++ extension

/-- The files for a pattern. -/
def filesFor (pattern : String) : Except SearchError (List String) :=
  match glob.entries pattern with
  | .error source => .error (.pattern pattern source)
  | .ok entries => do
    let paths ← entries.mapM fun entry => entry.mapError .unreadable
    pure (paths.filter files.isFile)

/-- The manifests in a directory, in the order of their paths. -/
def directory (dir : String) : Except SearchError (List String) := do
  let found ← extensions.mapM fun extension =>
    filesFor glob files (pattern glob recursive dir extension)
  pure (found.flatten.mergeSort fun a b => (Path.order a b).isLE)

/-- The manifests that paths stand for: files stand for themselves, directories for what is in
them. -/
def collect : List String → Logged SearchError (List String)
  | [] => pure []
  | path :: rest =>
    match files.find path with
    | .error _ => throw (.notFound path)
    | .ok (.file _) => do
      let more ← collect rest
      pure (path :: more)
    | .ok (.directory _) => do
      let found ← MonadExcept.ofExcept (directory glob files recursive path)
      Logged.note (.debug s!"found {found.length} manifest(s) under {path}")
      let more ← collect rest
      pure (found ++ more)

end

/-- The manifests in a tree that paths stand for. -/
def manifests [FileTree.Globbing] (files : FileTree) (recursive : Bool) (paths : List String) :
    Logged SearchError (List String) :=
  collect (FileTree.Globbing.glob files) files recursive paths

end Search

end QueryLint
