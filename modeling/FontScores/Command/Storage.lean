/-!
# Files

The commands read and write files through three operations, so that they can be run on the files of
a machine as well as on a tree of files in memory.

In memory a path is taken apart at its slashes.  The directories are those on the way to a file.
-/

namespace FontScores.Command

inductive StorageFailure where
  | missing
  | notDirectory
  | isDirectory
  | other (text : String)
deriving DecidableEq, Repr

def StorageFailure.message : StorageFailure → String
  | missing => "No such file or directory (os error 2)"
  | notDirectory => "Not a directory (os error 20)"
  | isDirectory => "Is a directory (os error 21)"
  | other text => text

class Storage (m : Type → Type) where
  read : String → m (Except StorageFailure String)
  exists? : String → m Bool
  /-- Replaces the content of a file, or makes a new one. -/
  write : String → String → m (Except StorageFailure Unit)

/-- Files in memory, each under the parts of its path. -/
structure FileTree where
  files : List (List String × String)
deriving DecidableEq, Repr

namespace FileTree

/-- The parts of a path from the working directory; nothing if it leads out of it. -/
def parts? (path : String) : Option (List String) :=
  if path.startsWith "/" then none
  else
    (path.splitOn "/").foldlM
      (fun parts part =>
        if part = "" ∨ part = "." then some parts
        else if part = ".." then (if parts = [] then none else some parts.dropLast)
        else some (parts ++ [part]))
      []

def ofFiles (files : List (String × String)) : FileTree :=
  ⟨files.filterMap fun (path, text) => (parts? path).map fun parts => (parts, text)⟩

def file? (tree : FileTree) (parts : List String) : Option String :=
  (tree.files.find? (·.1 = parts)).map Prod.snd

def isDirectory (tree : FileTree) (parts : List String) : Bool :=
  parts = [] || tree.files.any fun (file, _) => parts.isPrefixOf file && parts != file

/-- Why there is nothing at a path: one of the directories on the way may be a file. -/
def absence (tree : FileTree) (parts : List String) : StorageFailure :=
  if tree.files.any fun (file, _) => file.isPrefixOf parts && file != parts then .notDirectory
  else .missing

def read (tree : FileTree) (path : String) : Except StorageFailure String :=
  match parts? path with
  | none => .error .missing
  | some parts =>
    match tree.file? parts with
    | some text => if path.endsWith "/" then .error .notDirectory else .ok text
    | none => .error (if tree.isDirectory parts then .isDirectory else tree.absence parts)

def contains (tree : FileTree) (path : String) : Bool :=
  match tree.read path with
  | .ok _ => true
  | .error failure => failure = .isDirectory

def write (tree : FileTree) (path text : String) : Except StorageFailure FileTree :=
  match parts? path with
  | none => .error .missing
  | some parts =>
    if tree.isDirectory parts then .error .isDirectory
    else if (tree.file? parts).isSome then
      if path.endsWith "/" then .error .notDirectory
      else
        .ok ⟨tree.files.map fun (file, old) => (file, if file = parts then text else old)⟩
    else if ¬tree.isDirectory parts.dropLast then .error (tree.absence parts)
    else if path.endsWith "/" then .error .isDirectory
    else .ok ⟨tree.files ++ [(parts, text)]⟩

instance : Storage (StateM FileTree) where
  read path := do return (← get).read path
  exists? path := do return (← get).contains path
  write path text := do
    match (← get).write path text with
    | .ok tree =>
      set tree
      return .ok ()
    | .error failure => return .error failure

end FileTree

end FontScores.Command
