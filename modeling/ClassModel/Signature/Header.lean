import ClassModel.Signature.Modifiers
import ClassModel.Signature.TypeExpr

/-!
# ClassModel.Signature.Header

The headers of declarations. A header is read twice. The first reading takes
its start, up to the name, and the names of its generic parameters; it needs
to know no other class-like. The second one takes the rest, once the names of
all class-likes are known.

```
header    = modifiers keyword name [ '<' parameters '>' ] { clause }
parameter = name { 'extends' type { '&' type } | 'super' type }
clause    = ( 'extends' | 'implements' ) type { ',' type }
```
-/

namespace ClassModel

/-! ## The start of a header -/

/-- The start of a header, and the tokens after it. -/
structure HeaderStart where
  modifiers : Modifiers
  /-- The kind of the class-like, as yet without supertypes. -/
  kind : Kind
  identifier : String
  rest : List Token

/-- Why a header declares nothing. -/
inductive HeaderError where
  /-- Another token stands in place of the keyword. -/
  | noKeyword (found : String)
  /-- No name follows the keyword. -/
  | noIdentifier (unmet : Unmet)
  deriving DecidableEq

namespace HeaderStart

/-- The kind that a keyword declares. -/
def kindOf? (modifiers : Modifiers) : List Token → Option Kind
  | .keyword .class :: _ => some (.class none [] modifiers.isAbstract)
  | .keyword .interface :: _ => some (.interface [])
  | .keyword .enum :: _ => some (.enum [] [])
  | _ => none

/-- Reads the modifiers, the keyword and the name. -/
def read (tokens : List Token) : Except HeaderError HeaderStart :=
  let (modifiers, rest) := Modifiers.read tokens
  match kindOf? modifiers rest with
  | none => .error (.noKeyword (Signature.nextText rest))
  | some kind =>
    match Signature.readIdentifier (rest.drop 1) with
    | (.ok identifier, rest) => .ok ⟨modifiers, kind, identifier, rest⟩
    | (.error unmet, _) => .error (.noIdentifier unmet)

end HeaderStart

/-! ## The names of the generic parameters -/

namespace ParameterNames

mutual

/-- The parameter names from a place where one may stand. -/
def atName : List Token → List String
  | .identifier identifier :: rest => identifier :: pastBounds 1 rest
  | _ => []

/-- The parameter names after the bounds of one, inside the given number of
angle brackets. -/
def pastBounds (depth : Nat) : List Token → List String
  | [] => []
  | token :: rest =>
    if token.isMark '<' then pastBounds (depth + 1) rest
    else if token.isMark '>' then
      if depth ≤ 1 then [] else pastBounds (depth - 1) rest
    else if token.isMark ',' && depth == 1 then atName rest
    else pastBounds depth rest

end

/-- The names of the generic parameters that a header goes on with. -/
def read (tokens : List Token) : List String :=
  match Signature.readMark '<' tokens with
  | (none, rest) => atName rest
  | (some _, _) => []

end ParameterNames

/-! ## The rest of a header -/

/-- A bound of a generic parameter. -/
inductive BoundExpr where
  /-- The types after `extends`. -/
  | upper (types : List TypeExpr)
  /-- The type after `super`. -/
  | lower (type : TypeExpr)

/-- A generic parameter with its bounds. -/
structure ParameterExpr where
  identifier : String
  bounds : List BoundExpr

/-- Generic parameters, which may lack their closing bracket. -/
structure ParameterListExpr where
  parameters : List ParameterExpr := []
  unclosed? : Option Unmet := none

/-- How a class-like relates to the types of a clause. -/
inductive ClauseKind where
  | «extends»
  | implements
  deriving DecidableEq, Repr

/-- A clause that names supertypes. -/
structure ClauseExpr where
  kind : ClauseKind
  types : List TypeExpr

/-- The rest of a header after the name. -/
structure HeaderRest where
  parameterList : ParameterListExpr
  clauses : List ClauseExpr
  trailing? : Option Unmet

namespace HeaderRest

/-- Reads the bounds of a generic parameter; the number bounds their count. -/
def readBoundsWithin (takesArguments : String → Bool) :
    Nat → List Token → List BoundExpr × List Token
  | 0, tokens => ([], tokens)
  | bound + 1, .keyword .extends :: rest =>
    let (types, rest) := TypeExpr.readSeparated takesArguments '&' rest
    let (bounds, rest) := readBoundsWithin takesArguments bound rest
    (.upper types :: bounds, rest)
  | bound + 1, .keyword .super :: rest =>
    let (type, rest) := TypeExpr.read takesArguments rest
    let (bounds, rest) := readBoundsWithin takesArguments bound rest
    (.lower type :: bounds, rest)
  | _ + 1, tokens => ([], tokens)

/-- Reads generic parameters as long as a name follows; the number bounds
their count. -/
def readParametersWithin (takesArguments : String → Bool) :
    Nat → List Token → List ParameterExpr × List Token
  | 0, tokens => ([], tokens)
  | bound + 1, .identifier identifier :: rest =>
    let (bounds, rest) := readBoundsWithin takesArguments rest.length rest
    match Signature.readMark ',' rest with
    | (none, rest) =>
      let (parameters, rest) := readParametersWithin takesArguments bound rest
      (⟨identifier, bounds⟩ :: parameters, rest)
    | (some _, rest) => ([⟨identifier, bounds⟩], rest)
  | _ + 1, tokens => ([], tokens)

/-- Reads the generic parameters in angle brackets, if there are any. -/
def readParameterList (takesArguments : String → Bool) (tokens : List Token) :
    ParameterListExpr × List Token :=
  match Signature.readMark '<' tokens with
  | (some _, rest) => ({}, rest)
  | (none, rest) =>
    let (parameters, rest) := readParametersWithin takesArguments rest.length rest
    let (unclosed?, rest) := Signature.readMark '>' rest
    (⟨parameters, unclosed?⟩, rest)

/-- Reads the clauses with supertypes; the number bounds their count. -/
def readClausesWithin (takesArguments : String → Bool) :
    Nat → List Token → List ClauseExpr × List Token
  | 0, tokens => ([], tokens)
  | bound + 1, .keyword .extends :: rest =>
    let (types, rest) := TypeExpr.readSeparated takesArguments ',' rest
    let (clauses, rest) := readClausesWithin takesArguments bound rest
    (⟨.extends, types⟩ :: clauses, rest)
  | bound + 1, .keyword .implements :: rest =>
    let (types, rest) := TypeExpr.readSeparated takesArguments ',' rest
    let (clauses, rest) := readClausesWithin takesArguments bound rest
    (⟨.implements, types⟩ :: clauses, rest)
  | _ + 1, tokens => ([], tokens)

/-- Reads the rest of a header. Enums have no generic parameters. -/
def read (takesArguments : String → Bool) (isGeneric : Bool) (tokens : List Token) :
    HeaderRest :=
  let (parameterList, rest) :=
    if isGeneric then readParameterList takesArguments tokens else ({}, tokens)
  let (clauses, rest) := readClausesWithin takesArguments rest.length rest
  ⟨parameterList, clauses, Signature.readEnd .clauseOrEnd rest⟩

end HeaderRest

end ClassModel
