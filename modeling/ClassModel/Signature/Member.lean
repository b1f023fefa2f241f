import ClassModel.Signature.Modifiers
import ClassModel.Signature.TypeExpr

/-!
# ClassModel.Signature.Member

The signatures of attributes and methods, as they are written.

```
attribute = modifiers type name
method    = modifiers [ type ] name '(' [ formal { ',' formal } [ ',' ] ] ')'
formal    = type [ '...' ] name
```

A method without a type in front of its name is a constructor.
-/

namespace ClassModel

/-! ## Attributes -/

/-- A written attribute. -/
structure AttributeExpr where
  modifiers : Modifiers
  type : TypeExpr
  identifier : Except Unmet String
  /-- What is left over after the name. -/
  trailing? : Option Unmet

/-- Reads an attribute. Without a name the rest is not looked at. -/
def AttributeExpr.read (takesArguments : String → Bool) (tokens : List Token) : AttributeExpr :=
  let (modifiers, rest) := Modifiers.read tokens
  let (type, rest) := TypeExpr.read takesArguments rest
  match Signature.readIdentifier rest with
  | (.ok identifier, rest) =>
    ⟨modifiers, type, .ok identifier, Signature.readEnd .attributeEnd rest⟩
  | (.error unmet, _) => ⟨modifiers, type, .error unmet, none⟩

/-! ## Methods -/

/-- A written formal parameter. -/
structure FormalExpr where
  type : TypeExpr
  isVariadic : Bool
  identifier : Except Unmet String

/-- Formal parameters, which may lack their brackets. -/
structure FormalListExpr where
  unopened? : Option Unmet := none
  formals : List FormalExpr := []
  unclosed? : Option Unmet := none

/-- A written method. -/
structure MethodExpr where
  modifiers : Modifiers
  /-- The type of the result; a constructor has none. -/
  returnType? : Option TypeExpr
  identifier : Except Unmet String
  formalList : FormalListExpr
  /-- What is left over after the formal parameters. -/
  trailing? : Option Unmet

namespace MethodExpr

/-- Whether a name with an opening bracket comes next, rather than a type. -/
def startsConstructor : List Token → Bool
  | .identifier _ :: next :: _ => next.isMark '('
  | _ => false

/-- Reads the mark of a variadic parameter, if there is one. -/
def readEllipsis : List Token → Bool × List Token
  | .ellipsis :: rest => (true, rest)
  | tokens => (false, tokens)

/-- Reads a formal parameter. -/
def readFormal (takesArguments : String → Bool) (tokens : List Token) :
    FormalExpr × List Token :=
  let (type, rest) := TypeExpr.read takesArguments tokens
  let (isVariadic, rest) := readEllipsis rest
  let (identifier, rest) := Signature.readIdentifier rest
  (⟨type, isVariadic, identifier⟩, rest)

/-- Reads formal parameters as long as a name follows; the number bounds their
count. -/
def readFormalsWithin (takesArguments : String → Bool) :
    Nat → List Token → List FormalExpr × List Token
  | 0, tokens => ([], tokens)
  | bound + 1, .identifier identifier :: rest =>
    let (formal, rest) := readFormal takesArguments (.identifier identifier :: rest)
    match Signature.readMark ',' rest with
    | (none, rest) =>
      let (formals, rest) := readFormalsWithin takesArguments bound rest
      (formal :: formals, rest)
    | (some _, rest) => ([formal], rest)
  | _ + 1, tokens => ([], tokens)

/-- Reads the formal parameters in brackets. Without an opening bracket none
are read. -/
def readFormalList (takesArguments : String → Bool) (tokens : List Token) :
    FormalListExpr × List Token :=
  match Signature.readMark '(' tokens with
  | (some unmet, rest) => ({ unopened? := some unmet }, rest)
  | (none, rest) =>
    let (formals, rest) := readFormalsWithin takesArguments rest.length rest
    let (unclosed?, rest) := Signature.readMark ')' rest
    ({ formals := formals, unclosed? := unclosed? }, rest)

/-- Reads the type of the result, which a constructor lacks. -/
def readReturnType? (takesArguments : String → Bool) (tokens : List Token) :
    Option TypeExpr × List Token :=
  if startsConstructor tokens then (none, tokens)
  else
    let (type, rest) := TypeExpr.read takesArguments tokens
    (some type, rest)

/-- Reads a method. -/
def read (takesArguments : String → Bool) (tokens : List Token) : MethodExpr :=
  let (modifiers, rest) := Modifiers.read tokens
  let (returnType?, rest) := readReturnType? takesArguments rest
  let (identifier, rest) := Signature.readIdentifier rest
  let (formalList, rest) := readFormalList takesArguments rest
  ⟨modifiers, returnType?, identifier, formalList, Signature.readEnd .methodEnd rest⟩

end MethodExpr

end ClassModel
