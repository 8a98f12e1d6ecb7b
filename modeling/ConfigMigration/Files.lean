/-!
# Files

What the program needs of a file system: the bytes of the file at a path, or why they cannot be read.  `FileTree`
is a file system held as a value.
-/

namespace ConfigMigration

/-- Why a file cannot be read. -/
inductive FileError where
  /-- The path is no path. -/
  | noPath
  /-- There is nothing at the path. -/
  | notFound
  /-- Something on the way is no directory. -/
  | notDirectory
  /-- There is a directory at the path. -/
  | isDirectory
  /-- A name on the way is too long. -/
  | nameTooLong
  /-- The bytes of the file are no text. -/
  | noText
  /-- The file system fails in another way. -/
  | other (message : String)
deriving DecidableEq, Repr

/-- The message of a file error. -/
def FileError.message : FileError → String
  | noPath => "file name contained an unexpected NUL byte"
  | notFound => "No such file or directory (os error 2)"
  | notDirectory => "Not a directory (os error 20)"
  | isDirectory => "Is a directory (os error 21)"
  | nameTooLong => "File name too long (os error 36)"
  | noText => "stream did not contain valid UTF-8"
  | other message => message

/-- A file system: the bytes of the file at each path. -/
abbrev Files := String → Except FileError ByteArray

namespace Files

/-- The text of the file at a path. -/
def readText (files : Files) (path : String) : Except FileError String := do
  match String.fromUTF8? (← files path) with
  | some text => .ok text
  | none => .error .noText

/-- The file system in which only some paths have been looked up. -/
def ofLookups (lookups : List (String × Except FileError ByteArray)) : Files := fun path =>
  (lookups.lookup path).getD (.error .notFound)

end Files

/-- Files by path.  There are the directories that the paths of the files lead through, and further ones. -/
structure FileTree where
  /-- The names on the way to each file, and its bytes. -/
  files : List (List String × ByteArray) := []
  /-- The names on the way to each further directory. -/
  directories : List (List String) := []

namespace FileTree

/-- The longest name of a file, in bytes. -/
def maxNameSize : Nat := 255

/-- The longest path, in bytes. -/
def maxPathSize : Nat := 4095

/-- The names on the way that a path describes.  A path that ends in a slash stays in the directory
that it leads to. -/
def names (path : String) : List String :=
  (path.splitOn "/").filter (· ≠ "") ++ if path.endsWith "/" then ["."] else []

/-- The file tree of paths and bytes, with further directories. -/
def ofList (files : List (String × ByteArray)) (directories : List String) : FileTree where
  files := files.map fun file => (names file.1, file.2)
  directories := directories.map names

/-- The bytes of the file at a list of names. -/
def file? (tree : FileTree) (path : List String) : Option ByteArray :=
  (tree.files.find? (·.1 = path)).map (·.2)

/-- Whether there is a directory at a list of names. -/
def isDirectory (tree : FileTree) (path : List String) : Bool :=
  path.isEmpty || (tree.files.any fun file => path.length < file.1.length && path.isPrefixOf file.1) ||
    tree.directories.any path.isPrefixOf

/-- The outcome of following names from the directory `here`, which is given in reverse. -/
def follow (tree : FileTree) (here : List String) : List String → Except FileError ByteArray
  | [] => .error .isDirectory
  | name :: rest =>
    if name = "." then follow tree here rest
    else if name = ".." then follow tree (here.drop 1) rest
    else if maxNameSize < name.utf8ByteSize then .error .nameTooLong
    else
      let path := (name :: here).reverse
      match tree.file? path with
      | some bytes => if rest.isEmpty then .ok bytes else .error .notDirectory
      | none => if tree.isDirectory path then follow tree (name :: here) rest else .error .notFound

/-- The file system of a file tree. -/
def read (tree : FileTree) : Files := fun path =>
  if path.isEmpty then .error .notFound
  else if path.contains '\x00' then .error .noPath
  else if maxPathSize < path.utf8ByteSize then .error .nameTooLong
  else tree.follow [] (names path)

end FileTree

end ConfigMigration
