import DocShape.Storage

namespace DocShape

/-! File trees below a working directory.

Names above the working directory lead nowhere.
-/

/-- The items by the names on the way to them, the first name first.  The working directory
itself is always there. -/
structure FileTree where
  items : List (List String × StoredItem)

namespace FileTree

def empty : FileTree := ⟨[]⟩

def item? (tree : FileTree) : List String → Option StoredItem
  | [] => some .directory
  | place => tree.items.lookup place

/-- The names of a path.  Empty names stand for the directory they are looked up in. -/
def namesOf (path : String) : List String := path.splitOn "/"

def put (tree : FileTree) (place : List String) (item : StoredItem) : FileTree :=
  ⟨(place, item) :: tree.items.filter fun known => known.1 != place⟩

/-- Adds the directories on the way to a place. -/
def putParents (tree : FileTree) (place : List String) : FileTree :=
  (List.range place.length).foldl (fun tree count =>
    let parent := place.take count
    if (tree.item? parent).isSome then tree else tree.put parent .directory) tree

/-- Adds an item and the directories on the way to it. -/
def insert (tree : FileTree) (path : String) (item : StoredItem) : FileTree :=
  let place := namesOf path
  (tree.putParents place).put place item

/-- How many links may be followed on the way to one item. -/
def maxLinks : Nat := 40

/-- How many bytes a name may have. -/
def maxNameSize : Nat := 255

/-- Follows names from a place in a directory. -/
def walk (tree : FileTree) (links : Nat) (place : List String) (names : List String) :
    Except StorageFault (List String × Stored) :=
  match tree.item? place, names with
  | none, _ => .error .missing
  | some (.file content), [] => .ok (place, .file content)
  | some (.file _), _ :: _ => .error .notDirectory
  | some .directory, [] => .ok (place, .directory)
  | some .directory, name :: rest =>
      if name = "" ∨ name = "." then tree.walk links place rest
      else if name = ".." then
        if place.isEmpty then .error .missing else tree.walk links place.dropLast rest
      else if name.utf8ByteSize > maxNameSize then .error .nameTooLong
      else tree.walk links (place ++ [name]) rest
  | some (.link target), names =>
      match links with
      | 0 => .error .tooManyLinks
      | fewer + 1 =>
          if target.startsWith "/" then .error .missing
          else tree.walk fewer place.dropLast (namesOf target ++ names)
termination_by (links, names.length)

def find (tree : FileTree) (path : String) : Except StorageFault (List String × Stored) :=
  if path.isEmpty ∨ path.startsWith "/" then .error .missing
  else tree.walk maxLinks [] (namesOf path)

/-- The items directly in a directory. -/
def children (tree : FileTree) (place : List String) : List (String × StoredItem) :=
  tree.items.filterMap fun (known, item) =>
    match known.getLast? with
    | some name => if known.dropLast = place then some (name, item) else none
    | none => none

def list (tree : FileTree) (path : String) : Except StorageFault (List (String × StoredItem)) := do
  match ← tree.find path with
  | (place, .directory) => return tree.children place
  | (_, .file _) => .error .notDirectory

def storage (tree : FileTree) : Storage where
  find path := (tree.find path).map (·.2)
  list := tree.list

end FileTree
end DocShape
