import SetScript.Host.Basic

/-!
# Trees of files

A host whose files are held in memory.  Paths are followed part by part: `.` and
empty parts stay, `..` goes up, and any other part goes down.  Only directories
can be gone through, so a slash after the name of a file leads nowhere.
-/

namespace SetScript

/-- A file, or a directory with named entries. -/
inductive FileTree
  | file (content : ByteArray)
  | directory (entries : List (String × FileTree))

namespace FileTree

/-- An empty directory. -/
def empty : FileTree :=
  directory []

/-- Put a tree at the end of a path of names, creating directories on the way.
A directory that is there already keeps its entries. -/
def insert (leaf : FileTree) : List String → FileTree → FileTree
  | [], tree =>
      match leaf, tree with
      | directory [], directory entries => directory entries
      | leaf, _ => leaf
  | name :: path, tree =>
      let entries :=
        match tree with
        | directory entries => entries
        | file _ => []
      let inner := insert leaf path ((entries.lookup name).getD empty)
      directory ((name, inner) :: entries.filter (·.1 != name))

/-- Follow the parts of a path from a directory; the list holds the trees above,
the innermost first. -/
def follow : List String → FileTree → List FileTree → Entry
  | [], file content, _ => .file content
  | [], directory _, _ => .directory
  | _ :: _, file _, _ => .notDirectory
  | part :: path, directory entries, above =>
      if part = "" ∨ part = "." then
        follow path (directory entries) above
      else if part = ".." then
        match above with
        | [] => follow path (directory entries) []
        | parent :: above => follow path parent above
      else
        match entries.lookup part with
        | none => .missing
        | some inner => follow path inner (directory entries :: above)

/-- What is found at a path.  Relative paths start at a working directory. -/
def entry (tree : FileTree) (workingDirectory path : String) : Entry :=
  if path.isEmpty then .missing
  else follow ((Host.join workingDirectory path).splitOn "/") tree []

end FileTree

end SetScript
