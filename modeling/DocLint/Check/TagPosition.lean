import DocLint.Finding

/-!
# Checking where types stand in a tag

Square brackets behind the second word of a tag are read as part of its
description.  They are almost certainly meant as its types, so each tag with
such brackets is reported.
-/

namespace DocLint
namespace Check

/-- The findings for types that stand in the wrong place. -/
def tagPositions
    (comments : List CommentLine)
    (tags : List Tag) :
    List Finding :=
  tags.filterMap fun tag => do
    let misplaced ← tag.misplacedTypes
    let comment ← comments[tag.lineIndex]?
    return Finding.of .tagTypePosition
      ("Found `" ++ misplaced.text ++ "` in `@" ++ tag.directive ++
        "`, but not where a type list is expected")
      (Span.ofComment comment)

end Check
end DocLint
