import IdentityClient.ServiceKey

/-!
# A file tree

Files and directories that are known beforehand, read by path: absolute, or from a working directory.
-/

namespace IdentityClient.Simulation

inductive FileNode where
  | file (content : Bytes)
  | directory
  deriving DecidableEq, Repr

structure FileTree where
  /-- Every file and directory but the root, by the names on the way to it. -/
  nodes : List (List String × FileNode)
  workingDirectory : List String
  deriving Repr

namespace FileTree

def maxNameLength : Nat := 255
def maxPathLength : Nat := 4095

def node? (t : FileTree) (names : List String) : Option FileNode :=
  if names.isEmpty then some .directory else t.nodes.lookup names

/-- The names of a path, between its slashes. -/
def cut : List Char → List Char → List (List Char)
  | name, [] => [name.reverse]
  | name, '/' :: rest => name.reverse :: cut [] rest
  | name, c :: rest => cut (c :: name) rest

/-- Goes down a path from the directory with the names `at_`. -/
def walk (t : FileTree) (at_ : List String) : List String → Except FileFault (List String)
  | [] => .ok at_
  | name :: rest =>
    match t.node? at_ with
    | some .directory =>
      if name = "" ∨ name = "." then walk t at_ rest
      else if name = ".." then walk t at_.dropLast rest
      else if maxNameLength < name.utf8ByteSize then .error .nameTooLong
      else if (t.node? (at_ ++ [name])).isNone then .error .notFound
      else walk t (at_ ++ [name]) rest
    | some (.file _) => .error .notDirectory
    | none => .error .notFound

def read (t : FileTree) : ServiceKey.FileReader := fun path =>
  let cs := path.toList
  if cs.contains '\x00' then .error .interiorNul
  else if cs.isEmpty then .error .notFound
  else if maxPathLength < path.utf8ByteSize then .error .nameTooLong
  else
    let start := if cs.head? = some '/' then [] else t.workingDirectory
    match t.walk start ((cut [] cs).map String.ofList) with
    | .error e => .error e
    | .ok names =>
      match t.node? names with
      | some (.file content) => .ok content
      | some .directory => .error .isDirectory
      | none => .error .notFound

end FileTree

end IdentityClient.Simulation
