import TextGrammar.Command.Reading
/-!
# File trees

Files held in memory and read by path. The tree is the working directory; of what lies outside it
only the directories above it are known.
-/
namespace TextGrammar.Command

/-- A file has a path of names and its bytes; directories are there for the files in them. -/
structure FileTree where
  files : List (List (List Char) × ByteArray)

namespace FileTree

private def isBlank (name : List Char) : Bool := name = [] || name = ['.']

def ofList (files : List (String × ByteArray)) : FileTree :=
  ⟨files.map fun (path, bytes) =>
    ((path.toList.splitOn '/').filter fun name => !isBlank name, bytes)⟩

inductive Place where
  | directory (path : List (List Char))
  | outside
  | file (bytes : ByteArray)

/-- One name further; blank names and those of parents are only for directories. -/
private def step (tree : FileTree) (place : Place) (name : List Char) : Except ReadError Place :=
  match place with
  | .file _ => .error .notDirectory
  | .outside => if isBlank name || name = ['.', '.'] then .ok .outside else .error .notFound
  | .directory path =>
    if isBlank name then .ok place
    else if name = ['.', '.'] then
      .ok (if path.isEmpty then .outside else .directory path.dropLast)
    else
      let longer := path ++ [name]
      match tree.files.find? fun file => file.1 = longer with
      | some file => .ok (.file file.2)
      | none =>
        if tree.files.any fun file => longer.isPrefixOf file.1 then .ok (.directory longer)
        else .error .notFound

def resolve (tree : FileTree) (path : String) : Except ReadError Place :=
  let start := if path.toList.head? = some '/' then Place.outside else .directory []
  (path.toList.splitOn '/').foldlM tree.step start

def readText (tree : FileTree) (path : String) : Except ReadError String :=
  match tree.resolve path with
  | .ok (.file bytes) => decodeText bytes
  | .ok _ => .error .isDirectory
  | .error error => .error error

def contents (tree : FileTree) (stdin : ByteArray) : Input → Except ReadError String
  | .file path => tree.readText path
  | .stdin => decodeText stdin

end FileTree

end TextGrammar.Command
