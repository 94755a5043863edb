import DocLint.Declaration
import DocLint.Finding
import DocLint.Prototype
import DocLint.TypeExpr.Parser

/-!
# Checking tags against the parameters of a method

The tags that document parameters are set against the parameters of the method:
each tag has to have a name and types, each name has to be a parameter's, and
each parameter has to have a tag.  A method that documents overloads, or that
has no parameters, is left alone.
-/

namespace DocLint
namespace Check

/-- Whether a tag is set against the parameters of its method. -/
def isReconciled (tag : Tag) : Bool :=
  tag.documentsParameter && tag.kind != .reference && tag.misplacedTypes.isNone

/-- The finding for one tag, if it has no name, no types, or the name of no
parameter.  A name is only reported if the types of the tag can be read. -/
def tagFinding?
    (names : List String)
    (comment : CommentLine)
    (tag : Tag) :
    Option Finding :=
  match tag.name, tag.types with
  | none, _ =>
    some <| Finding.of .incompleteTag
      ("No tag name is supplied in `@" ++ tag.directive ++ "`")
      (Span.ofComment comment)
  | some _, none =>
    some <| Finding.of .incompleteTag
      ("No types are associated with the tag in `@" ++ tag.directive ++ "`")
      (Span.ofComment comment)
  | some name, some types =>
    if names.contains name.text then none
    else
      match TypeExpr.parse types.text.toList with
      | .error _ => none
      | .ok _ =>
        some <| Finding.of .unknownParamName
          ("`" ++ name.text ++ "` is not found in method arguments of [" ++
            ", ".intercalate names ++ "]")
          (Span.ofPlace name.place)

/-- The findings for the tags of a method. -/
def reconciledTags
    (declaration : Declaration)
    (tags : List Tag) :
    List Finding :=
  (tags.filter isReconciled).filterMap fun tag => do
    let comment ← declaration.comments[tag.lineIndex]?
    tagFinding? declaration.parameterNames comment tag

/-- The names that tags document. -/
def documentedNames (tags : List Tag) : List String :=
  ((tags.filter Tag.documentsParameter).filterMap Tag.name).map TagText.text

/-- The comment line that documents a parameter, on a line of its own. -/
def suggestion
    (prototype : Prototype)
    (column : Nat)
    (name : String)
    (parameter : Parameter) :
    String :=
  "\n" ++ String.ofList (List.replicate column ' ') ++ "# " ++
    prototype.format name parameter.documentedType

/-- The finding for a parameter without a tag.  The suggested tag goes behind
the last comment. -/
def undocumentedFinding?
    (prototype : Prototype)
    (last : CommentLine)
    (documented : List String)
    (parameter : Parameter) :
    Option Finding := do
  guard parameter.needsDocumentation
  let name ← parameter.name
  guard (!documented.contains name)
  return {
    Finding.of .undocumentedArgument
      ("This method has argument `" ++ name ++ "`, But not documented")
      (Span.ofComment last) with
    correction := some
      ⟨Span.point last.line last.endColumn,
        suggestion prototype last.column name parameter⟩ }

/-- The findings for parameters without a tag.  They are only looked for where
some parameter is documented at all. -/
def undocumentedArguments
    (declaration : Declaration)
    (tags : List Tag)
    (prototype : Prototype) :
    List Finding :=
  if tags.any fun tag => tag.kind == .param || tag.directive == "option" then
    match lastLeading? declaration.comments with
    | none => []
    | some last =>
      declaration.parameters.filterMap
        (undocumentedFinding? prototype last (documentedNames tags))
  else []

/-- The findings for the tags and parameters of a method. -/
def arguments
    (declaration : Declaration)
    (tags : List Tag)
    (prototype : Prototype) :
    List Finding :=
  if declaration.kind ≠ .method ∨ declaration.parameters.isEmpty ∨
      tags.any fun tag => tag.kind == .overload then []
  else
    reconciledTags declaration tags ++
      undocumentedArguments declaration tags prototype

end Check
end DocLint
