import DocLint.Declaration
import DocLint.Finding

/-!
# Tags for parameters of declarations that have none

Classes, modules and constants take no arguments, so a tag that documents a
parameter says nothing there.
-/

namespace DocLint
namespace Check

/-- The findings for tags that document parameters of something else than a
method. -/
def meaninglessTags
    (declaration : Declaration)
    (tags : List Tag) :
    List Finding :=
  if declaration.kind = .method then []
  else
    (tags.filter Tag.documentsParameter).filterMap fun tag => do
      let comment ← declaration.comments[tag.lineIndex]?
      return Finding.of .meaninglessTag
        ("`@" ++ tag.directive ++ "` is meaningless tag on " ++
          declaration.kind.word)
        (Span.ofComment comment)

end Check
end DocLint
