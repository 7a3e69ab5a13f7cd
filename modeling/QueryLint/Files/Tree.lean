/-! Directory trees and the paths that lead into them.

Paths are read from the top of the tree, whether they begin with a slash or not.
-/

set_option autoImplicit false

namespace QueryLint

/-- A file with its bytes, or a directory with its entries. -/
inductive FileTree where
  | file (content : ByteArray)
  | directory (entries : List (String × FileTree))

/-- Why a file could not be read. -/
inductive ReadError where
  | notFound | isDirectory | notDirectory | invalidUtf8
  deriving DecidableEq, Repr

def ReadError.message : ReadError → String
  | .notFound => "No such file or directory (os error 2)"
  | .isDirectory => "Is a directory (os error 21)"
  | .notDirectory => "Not a directory (os error 20)"
  | .invalidUtf8 => "stream did not contain valid UTF-8"

namespace FileTree

def child? (name : String) : List (String × FileTree) → Option FileTree
  | [] => none
  | (n, tree) :: rest => if n = name then some tree else child? name rest

/-- Puts a tree at a place below, making directories on the way. -/
def insert (tree : FileTree) : List String → FileTree → FileTree
  | [], _ => tree
  | name :: path, .directory entries =>
    let inner := tree.insert path ((child? name entries).getD (.directory []))
    .directory (entries.filter (fun e => e.1 ≠ name) ++ [(name, inner)])
  | name :: path, .file _ => .directory [(name, tree.insert path (.directory []))]

/-- One step of a path: empty and single dots stay, double dots go back; `trail` holds the
directories passed, innermost first. -/
def walk (trail : List FileTree) (here : FileTree) : List String → Except ReadError FileTree
  | [] => .ok here
  | name :: rest =>
    match here with
    | .file _ => .error .notDirectory
    | .directory entries =>
      if name = "" || name = "." then walk trail here rest
      else if name = ".." then
        match trail with
        | [] => walk [] here rest
        | parent :: trail => walk trail parent rest
      else match child? name entries with
        | none => .error .notFound
        | some next => walk (here :: trail) next rest

/-- The parts of a path between slashes. -/
def components (path : String) : List String :=
  (path.toList.splitOn '/').map String.ofList

/-- What a path leads to. -/
def find (root : FileTree) (path : String) : Except ReadError FileTree :=
  if path = "" then .error .notFound else walk [] root (components path)

/-- The text of the file at a path. -/
def readText (root : FileTree) (path : String) : Except ReadError String :=
  match root.find path with
  | .error e => .error e
  | .ok (.directory _) => .error .isDirectory
  | .ok (.file content) =>
    match String.fromUTF8? content with
    | some text => .ok text
    | none => .error .invalidUtf8

def isFile (root : FileTree) (path : String) : Bool :=
  match root.find path with
  | .ok (.file _) => true
  | _ => false

def isDirectory (root : FileTree) (path : String) : Bool :=
  match root.find path with
  | .ok (.directory _) => true
  | _ => false

def exists? (root : FileTree) (path : String) : Bool :=
  match root.find path with
  | .ok _ => true
  | .error _ => false

end FileTree

end QueryLint
