import DocLint.Config
import DocLint.Files.Workspace
import DocLint.Manifest.File

/-!
# The search for manifests

Below a directory, manifests are found by their names, in the order of the
names, outside hidden directories, unless their path from that directory is
excluded.
-/

namespace DocLint
namespace Manifest

/-- The places of the manifests in a tree that are not excluded. -/
def placesIn
    (excluded : String → Bool)
    (tree : FileTree) :
    List (List String) :=
  tree.visibleFiles.filter fun place =>
    (place.getLast?.any isManifestName) && !excluded ("/".intercalate place)

/-- The paths of the manifests at or below a path.  A path that leads to a file
is taken as it is. -/
def search
    (workspace : Workspace)
    (excluded : String → Bool)
    (root : String) :
    Option (List String) :=
  match workspace.tree? root with
  | none => none
  | some (.file _) => some [root]
  | some tree =>
    some ((placesIn excluded tree).map fun place => place.foldl Path.join root)

end Manifest
end DocLint
