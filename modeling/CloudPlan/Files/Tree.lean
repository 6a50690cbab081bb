import CloudPlan.Files.System

/-!
# File trees

A file system in memory: files with text, and directories with names in ascending
order.
-/

namespace CloudPlan

/-- A file or a directory. -/
inductive FileTree where
  | file (content : String)
  | directory (entries : List (String × FileTree))

namespace FileTree

/-- The directory without entries. -/
def empty : FileTree := directory []

/-- No name may have more bytes than this. -/
def longestName : Nat := 255

/-- What names lead to. -/
def find (tree : FileTree) : List String → Except FileError FileTree
  | [] => .ok tree
  | name :: rest =>
    match tree with
    | file _ => .error .notDirectory
    | directory entries =>
      if longestName < name.utf8ByteSize then
        .error .nameTooLong
      else
        match entries.lookup name with
        | none => .error .notFound
        | some entry => find entry rest

/-- Entries with one of them set, in ascending order of names. -/
def setEntry (name : String) (entry : FileTree) :
    List (String × FileTree) → List (String × FileTree)
  | [] => [(name, entry)]
  | (other, held) :: rest =>
    if name < other then
      (name, entry) :: (other, held) :: rest
    else if name = other then
      (name, entry) :: rest
    else
      (other, held) :: setEntry name entry rest

/-- The tree with what names lead to set, as far as there are directories on the way. -/
def set (tree : FileTree) (names : List String) (entry : FileTree) : FileTree :=
  match names, tree with
  | [], _ => entry
  | _ :: _, file content => file content
  | [name], directory entries => directory (setEntry name entry entries)
  | name :: rest, directory entries =>
    match entries.lookup name with
    | none => directory entries
    | some held => directory (setEntry name (held.set rest entry) entries)

/-- The names that components lead along, after those passed before (the last one first). -/
def follow (passed : List String) : List Path.Component → Option (List String)
  | [] => some passed.reverse
  | .root :: _ => none
  | .current :: rest => follow passed rest
  | .normal name :: rest => follow (name :: passed) rest
  | .parent :: rest =>
    match passed with
    | [] => none
    | _ :: before => follow before rest

/-- The names that a path leads along from the top; there is nothing above the top. -/
def namesOf (path : String) : Except FileError (List String) :=
  if path.toList.any (·.toNat == 0) then
    .error .zeroByte
  else if path = "" then
    .error .notFound
  else
    match follow [] (Path.components path) with
    | some names => .ok names
    | none => .error .notFound

/-- A path ends in a way in which only paths of directories end. -/
def endsInSlash (path : String) : Bool :=
  path.toList.getLast? == some '/'

/-- A path ends in a dot for the directory that it leads to. -/
def endsInDot (path : String) : Bool :=
  (Path.parts path.toList).getLast? == some ['.']

/-- What a path leads to. -/
def lookup (tree : FileTree) (path : String) : Except FileError FileTree := do
  match ← tree.find (← namesOf path) with
  | directory entries => return directory entries
  | file content =>
    if endsInSlash path || endsInDot path then throw .notDirectory else return file content

/-- The content of a file. -/
def contentOf (tree : FileTree) (path : String) : Except FileError String := do
  match ← tree.lookup path with
  | directory _ => throw .isDirectory
  | file content => return content

/-- The tree with one more directory. -/
def withDirectory (tree : FileTree) (path : String) : Except FileError FileTree := do
  let names ← namesOf path
  match tree.find names with
  | .ok _ => throw .alreadyThere
  | .error .notFound =>
    match ← tree.find names.dropLast with
    | directory _ => return tree.set names empty
    | file _ => throw .notDirectory
  | .error error => throw error

/-- The tree with a file written. -/
def withFile (tree : FileTree) (path content : String) : Except FileError FileTree := do
  let names ← namesOf path
  match ← tree.find names.dropLast with
  | file _ => throw .notDirectory
  | directory _ =>
    if endsInDot path || names.isEmpty then
      let _ ← tree.lookup path
      throw .isDirectory
    else if endsInSlash path then
      throw .isDirectory
    else
      match tree.find names with
      | .ok (directory _) => throw .isDirectory
      | .ok (file _) => return tree.set names (file content)
      | .error .notFound => return tree.set names (file content)
      | .error error => throw error

mutual

/-- The files below a tree at a path. -/
def filesAt (path : String) : FileTree → List (String × String)
  | file content => [(path, content)]
  | directory entries => filesAmong path entries

/-- The files among the entries of the directory at a path. -/
def filesAmong (path : String) : List (String × FileTree) → List (String × String)
  | [] => []
  | (name, entry) :: rest => filesAt (Path.join path name) entry ++ filesAmong path rest

end

/-- The files with their paths from the top, in ascending order of paths. -/
def files (tree : FileTree) : List (String × String) :=
  (filesAt "" tree).mergeSort fun left right => decide (left.1 ≤ right.1)

/-- The result of a change, and the tree after it. -/
def commit (tree : FileTree) (change : Except FileError FileTree) :
    Except FileError Unit × FileTree :=
  match change with
  | .ok after => (.ok (), after)
  | .error error => (.error error, tree)

instance : FileSystem (StateM FileTree) where
  read path tree := ((tree.contentOf path).map (·.toUTF8.toList), tree)
  isFile path tree := ((tree.contentOf path).isOk, tree)
  isDirectory path tree :=
    ((match tree.lookup path with
      | .ok (directory _) => true
      | _ => false), tree)
  names path tree :=
    ((match tree.lookup path with
      | .ok (directory entries) => entries.map (·.1)
      | _ => []), tree)
  makeDirectory path tree := tree.commit (tree.withDirectory path)
  write path content tree := tree.commit (tree.withFile path content)

end FileTree

end CloudPlan
