/-
Items of generated code: structures, implementations, functions and calls that expand to
items, each with its attributes, and the tokens that each is written as.
-/
import StatSchema.Token.Basic

namespace StatSchema

open Token

/-- An attribute of an item. -/
inductive Attribute where
  /-- A line of documentation that is the same in all generated code. -/
  | comment (line : String)
  /-- Documentation that names what the schema names. -/
  | doc (text : String)
  /-- Anything else, without its brackets. -/
  | other (tokens : List Token)
  /-- Keeps the item only while a feature is on, or only while it is off. -/
  | feature (name : String) (on : Bool)
  deriving DecidableEq, Repr

/-- What stands between the brackets of an attribute. -/
def Attribute.content : Attribute → List Token
  | comment line => code "doc =" ++ [.literal ("r\"" ++ line ++ "\"")]
  | doc text => code "doc =" ++ [.string text]
  | other tokens => tokens
  | feature name on =>
    let condition := code "feature =" ++ [.string name]
    .identifier "cfg" ::
      parens (if on then condition else .identifier "not" :: parens condition)

/-- The tokens of an attribute. -/
def Attribute.tokens (mark : Attribute) : List Token :=
  .punctuation '#' .alone :: brackets mark.content

/-- The tokens of the attributes before an item. -/
def attributeTokens (attributes : List Attribute) : List Token :=
  attributes.flatMap Attribute.tokens

/-- A field of a structure. -/
structure Field where
  name : String
  type : List Token
  deriving DecidableEq, Repr

/-- The tokens of a field with its comma. -/
def Field.tokens (field : Field) : List Token :=
  .identifier field.name :: .punctuation ':' .alone :: field.type ++ [.punctuation ',' .alone]

/-- A function or method. -/
structure Routine where
  attributes : List Attribute
  /-- The words before the name. -/
  qualifiers : List Token := code "pub fn"
  name : String
  generics : List Token := []
  parameters : List Token := code "& self"
  /-- The arrow and the result type, if there is a result. -/
  result : List Token := []
  body : List Token
  deriving DecidableEq, Repr

/-- The tokens of a function. -/
def Routine.tokens (routine : Routine) : List Token :=
  attributeTokens routine.attributes ++ routine.qualifiers ++
    .identifier routine.name :: routine.generics ++ parens routine.parameters ++
    routine.result ++ braces routine.body

/-- An item. -/
inductive Item where
  | structure (attributes : List Attribute) (name : String) (fields : List Field)
  /-- The methods of a type; `interface` is empty, or names a trait and ends in `for`. -/
  | implementation (attributes : List Attribute) (interface : List Token) (target : String)
      (methods : List Routine)
  | call (callee : List Token) (content : List Token)
  | routine (definition : Routine)
  deriving DecidableEq, Repr

/-- The tokens of an item. -/
def Item.tokens : Item → List Token
  | .structure attributes name fields =>
    attributeTokens attributes ++ code "pub struct" ++
      .identifier name :: braces (fields.flatMap Field.tokens)
  | implementation attributes interface target methods =>
    attributeTokens attributes ++ .identifier "impl" :: interface ++
      .identifier target :: braces (methods.flatMap Routine.tokens)
  | call callee content => callee ++ .punctuation '!' .alone :: braces content
  | routine definition => definition.tokens

end StatSchema
