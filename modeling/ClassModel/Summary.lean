import ClassModel.Library.Hierarchy
import ClassModel.Summary.Ron

/-!
# ClassModel.Summary

What is printed about a library: its declared class-likes in the order of
their registration, and its closed instantiations in the order of their keys.
A summary is printed as a listing or as structured data.
-/

namespace ClassModel

/-- A declared class-like as it is printed. -/
structure ClassLikeSummary where
  keyword : String
  identifier : String
  visibility : Visibility
  /-- The generic parameters with their bounds. -/
  genericParameters : List String
  supertypes : List String
  firstAttributeIndex : Nat
  attributes : List String
  methods : List String
  constants : List String

/-- A library as it is printed. -/
structure Summary where
  classLikes : List ClassLikeSummary
  /-- The keys of the closed instantiations, sorted. -/
  instantiations : List String

/-- How a summary is printed. -/
inductive OutputFormat where
  | listing
  | ron
  deriving DecidableEq, Repr

namespace Library

/-- A generic parameter with its bounds. -/
def summarizeParameter (library : Library) (parameter : GenericParameter) : String :=
  let upper :=
    if parameter.upperBounds.isEmpty then ""
    else " extends " ++ " & ".intercalate (parameter.upperBounds.map library.signatureOf)
  let lower := match parameter.lowerBound? with
    | some bound => " super " ++ library.signatureOf bound
    | none => ""
  parameter.identifier ++ upper ++ lower

/-- An attribute with its slot. -/
def summarizeAttribute (library : Library) (found : Attribute) : String :=
  found.visibility.text ++ (if found.isStatic then " static" else "") ++ " "
    ++ library.signatureOf found.type ++ " " ++ found.identifier ++ s!" @{found.index}"

/-- A method with its signature. -/
def summarizeMethod (library : Library) (method : Method) : String :=
  let returned := match method.returnType? with
    | some type => " " ++ library.signatureOf type
    | none => ""
  method.visibility.text ++ (if method.isStatic then " static" else "")
    ++ (if method.isAbstract then " abstract" else "") ++ returned ++ " " ++ method.signature
    ++ (if method.isVirtual then " (virtual)" else "")

/-- A class-like as it is printed. -/
def summarizeClassLike (library : Library) (classLike : ClassLike) : ClassLikeSummary :=
  { keyword := classLike.kind.keyword.text
    identifier := classLike.identifier
    visibility := classLike.visibility
    genericParameters :=
      (classLike.genericParameters.filterMap library.parameter?).map library.summarizeParameter
    supertypes := (classLike.kind.supertypes.filterMap library.classLike?).map (·.signature)
    firstAttributeIndex := classLike.layout.firstAttributeIndex
    attributes := classLike.attributes.map library.summarizeAttribute
    methods := classLike.methods.map library.summarizeMethod
    constants := classLike.kind.constants }

/-- A library as it is printed. -/
def summarize (library : Library) : Summary :=
  { classLikes := (library.types.filterMap library.classLike?).map library.summarizeClassLike
    instantiations := (library.typeCache.map (·.1)).mergeSort (· ≤ ·) }

end Library

/-! ## As a listing -/

namespace ClassLikeSummary

/-- The line of a class-like and, indented, those of its members. -/
def lines (summary : ClassLikeSummary) : List String :=
  let parameters :=
    if summary.genericParameters.isEmpty then ""
    else "<" ++ ", ".intercalate summary.genericParameters ++ ">"
  let supertypes :=
    if summary.supertypes.isEmpty then "" else " : " ++ ", ".intercalate summary.supertypes
  let members := summary.constants ++ summary.attributes ++ summary.methods
  (summary.keyword ++ " " ++ summary.identifier ++ parameters ++ supertypes
    ++ s!" [first slot {summary.firstAttributeIndex}]") :: members.map ("    " ++ ·)

/-- A class-like as structured data. -/
def toRon (summary : ClassLikeSummary) : Ron :=
  let visibility := match summary.visibility with
    | .public => "Public"
    | .protected => "Protected"
    | .private => "Private"
  let texts (items : List String) : Ron := .list (items.map .text)
  .fields [
    ("keyword", .text summary.keyword),
    ("identifier", .text summary.identifier),
    ("visibility", .word visibility),
    ("generic_parameters", texts summary.genericParameters),
    ("supertypes", texts summary.supertypes),
    ("first_attribute_index", .number summary.firstAttributeIndex),
    ("attributes", texts summary.attributes),
    ("methods", texts summary.methods),
    ("constants", texts summary.constants)]

end ClassLikeSummary

namespace Summary

/-- A summary as a listing. -/
def listing (summary : Summary) : String :=
  let instantiations :=
    if summary.instantiations.isEmpty then []
    else ["instantiations: " ++ ", ".intercalate summary.instantiations]
  let lines := summary.classLikes.flatMap (·.lines) ++ instantiations
  String.join (lines.map (· ++ "\n"))

/-- A summary as structured data. -/
def toRon (summary : Summary) : Ron :=
  .fields [
    ("class_likes", .list (summary.classLikes.map (·.toRon))),
    ("instantiations", .list (summary.instantiations.map .text))]

/-- A summary as it is printed. -/
def render (format : OutputFormat) (summary : Summary) : String :=
  match format with
  | .listing => summary.listing
  | .ron => summary.toRon.render

end Summary

end ClassModel
