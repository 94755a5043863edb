import DocLint.Manifest.Search
import DocLint.Proofs.NameOrder
import DocLint.Proofs.VisibleFiles

/-!
# The manifests that a search finds

A search in a directory gives out the paths of the manifests in it.  A path is
made by putting the names of a place below the root one after the other, so that
it has the segments of the root and behind them the names.  From this the order
of the places is that of the paths, and no path comes twice.
-/

namespace DocLint
namespace Path

/-! ## Paths below a root -/

end Path

namespace Manifest

end Manifest
end DocLint
