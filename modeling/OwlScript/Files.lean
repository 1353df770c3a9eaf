namespace OwlScript

/-!
# Files

Scripts are read by path.  What can be read is a function from paths to
contents, so that everything above it is a function as well.  A directory tree
held in memory gives such a function: it resolves relative paths the way a
working directory does.
-/

/-- The content of every path that can be read as a file. -/
abbrev Files :=
  String → Option ByteArray

/-- A file with its content, or a folder. -/
inductive Entry where
  | file (content : ByteArray)
  | folder

/-- The names from the working directory down to an entry. -/
abbrev EntryPath :=
  List String

/--
A directory tree as a list of entries under their paths, the working directory
itself being the empty path and always a folder.
-/
structure Directory where
  entries : List (EntryPath × Entry)

namespace Directory

/-- The tree with nothing in the working directory. -/
def empty : Directory :=
  ⟨[]⟩

/-- The entry under a path. -/
def entry? (directory : Directory) (path : EntryPath) : Option Entry :=
  if path.isEmpty then
    some .folder
  else
    directory.entries.lookup path

/-- The tree with the entry under the path, in place of an earlier one. -/
def place
    (directory : Directory)
    (path : EntryPath)
    (entry : Entry) :
    Directory :=
  ⟨(path, entry) :: directory.entries.filter (fun other => other.1 != path)⟩

/-- Whether a path is one of the folders on the way down to another. -/
def isAbove (path other : EntryPath) : Bool :=
  path.isPrefixOf other

/-- The tree without the entry under the path and everything below it. -/
def remove (directory : Directory) (path : EntryPath) : Directory :=
  ⟨directory.entries.filter (fun other => !isAbove path other.1)⟩

/-- The tree with folders on the whole way down a path where none are yet. -/
def placeFoldersAbove
    (directory : Directory)
    (above : EntryPath) :
    EntryPath → Directory
  | [] => directory
  | [_] => directory
  | name :: rest =>
      let here := above ++ [name]
      let next :=
        match directory.entry? here with
        | some _ => directory
        | none => directory.place here .folder
      placeFoldersAbove next here rest

/-- The names in a written path, without empty ones and those of no effect. -/
def namesOf (path : String) : List String :=
  ((path.splitOn "/").filter fun name => !name.isEmpty && name != ".")

/-- The tree with an entry under a written path and folders above it. -/
def write (directory : Directory) (path : String) (entry : Entry) : Directory :=
  let names := namesOf path
  (directory.placeFoldersAbove [] names).place names entry

/-- The tree without the entry under a written path. -/
def delete (directory : Directory) (path : String) : Directory :=
  directory.remove (namesOf path)

/--
The entry that names lead to from a folder.  Every name but the last has to
lead to a folder, and two dots lead to the folder above.
-/
def resolveFrom
    (directory : Directory)
    (here : EntryPath) :
    List String → Option Entry
  | [] => directory.entry? here
  | name :: rest =>
      match directory.entry? here with
      | some .folder =>
          if name == ".." then
            if here.isEmpty then
              none
            else
              resolveFrom directory here.dropLast rest
          else
            resolveFrom directory (here ++ [name]) rest
      | _ => none

/-- The greatest number of bytes that a path may have. -/
def pathLimit : Nat :=
  4095

/--
The content under a path as it was typed.  An absolute path, a path above the
working directory, and a path to a folder lead to no file; a slash at the end
asks for a folder.  A path beyond the limit leads nowhere, whatever it says.
-/
def read (directory : Directory) : Files := fun path =>
  if path.isEmpty || path.startsWith "/" || path.endsWith "/" ||
      path.endsWith "/." || path.contains '\x00' ||
      pathLimit < path.utf8ByteSize then
    none
  else
    match directory.resolveFrom [] (namesOf path) with
    | some (.file content) => some content
    | _ => none

end Directory

end OwlScript
