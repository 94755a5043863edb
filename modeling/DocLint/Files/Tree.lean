/-!
# File trees

A file tree is a file with its text or a directory of named trees.  A place in a
tree is the list of names that lead to it from the root.
-/

namespace DocLint

/-- A file, or a directory of named trees. -/
inductive FileTree
  | file (text : String)
  | directory (entries : List (String × FileTree))
  deriving Repr

namespace FileTree

/-- Whether a tree is a directory. -/
def isDirectory : FileTree → Bool
  | .file _ => false
  | .directory _ => true

/-- The named trees in a directory; a file has none. -/
def entries : FileTree → List (String × FileTree)
  | .file _ => []
  | .directory entries => entries

/-- The tree at a place. -/
def find? (tree : FileTree) : List String → Option FileTree
  | [] => some tree
  | name :: rest =>
    match tree.entries.lookup name with
    | some child => child.find? rest
    | none => none

/-- Named trees with one put in the place of those of the same name. -/
def putEntry
    (name : String)
    (tree : FileTree) :
    List (String × FileTree) → List (String × FileTree)
  | [] => [(name, tree)]
  | entry :: rest =>
    if entry.1 = name then (name, tree) :: rest
    else entry :: putEntry name tree rest

/-- The tree with another tree put at a place.  Directories on the way are
made. -/
def put (tree : FileTree) : List String → FileTree → FileTree
  | [], node => node
  | name :: rest, node =>
    let child := (tree.entries.lookup name).getD (.directory [])
    .directory (putEntry name (child.put rest node) tree.entries)

/-- Whether the search for files passes over an entry: a directory with a dot in
front of its name. -/
def isHidden (name : String) (tree : FileTree) : Bool :=
  tree.isDirectory && name.toList.head? == some '.'

mutual

/-- The places of the files in a tree: directory by directory in the order of
the names, and without those in hidden directories. -/
def visibleFiles : FileTree → List (List String)
  | .file _ => [[]]
  | .directory entries =>
    ((visibleEntries entries).mergeSort fun left right =>
      decide (left.1 ≤ right.1)).flatMap fun entry =>
        entry.2.map (entry.1 :: ·)

/-- Each entry that is not hidden, with the places of its files. -/
def visibleEntries :
    List (String × FileTree) → List (String × List (List String))
  | [] => []
  | (name, tree) :: rest =>
    if isHidden name tree then visibleEntries rest
    else (name, visibleFiles tree) :: visibleEntries rest

end

mutual

/-- The places of all files in a tree. -/
def files : FileTree → List (List String)
  | .file _ => [[]]
  | .directory entries => filesOfEntries entries

/-- The places of all files below some entries. -/
def filesOfEntries : List (String × FileTree) → List (List String)
  | [] => []
  | (name, tree) :: rest => (files tree).map (name :: ·) ++ filesOfEntries rest

end

@[simp] theorem find?_nil (tree : FileTree) : tree.find? [] = some tree := by
  rw [find?]

@[simp] theorem put_nil (tree node : FileTree) : tree.put [] node = node := by
  rw [put]

theorem lookup_putEntry
    (name other : String)
    (tree : FileTree)
    (entries : List (String × FileTree)) :
    (putEntry name tree entries).lookup other =
      if other = name then some tree else entries.lookup other := by
  induction entries with
  | nil =>
    by_cases same : other = name
    · simp [putEntry, same]
    · have differs : (other == name) = false := by simpa using same
      simp [putEntry, List.lookup_cons, same, differs]
  | cons entry rest ih =>
    obtain ⟨key, child⟩ := entry
    by_cases found : key = name
    · subst found
      by_cases same : other = key
      · simp [putEntry, same]
      · have differs : (other == key) = false := by simpa using same
        simp [putEntry, List.lookup_cons, same, differs]
    · by_cases here : other = key
      · subst here
        simp [putEntry, found]
      · have differs : (other == key) = false := by simpa using here
        simpa [putEntry, List.lookup_cons, found, differs] using ih

/-- What was put at a place is found there. -/
theorem find?_put
    (tree node : FileTree)
    (place : List String) :
    (tree.put place node).find? place = some node := by
  induction place generalizing tree with
  | nil => simp
  | cons name rest ih => rw [put, find?]; simp [entries, lookup_putEntry, ih]

end FileTree
end DocLint
