/-
Texts that spell an identifier. A text is read as source code and must be one identifier, space and
comments around it aside; the words of the language are none. Identifiers keep the characters that they
are written with, but the language tells them apart by their canonical forms.
-/
import StatSchema.Text.Canonical
import StatSchema.Token.Reader

namespace StatSchema.Identifier

/-- The words that no identifier may be. -/
def keywords : List String :=
  ["_", "abstract", "as", "async", "await", "become", "box", "break", "const", "continue", "crate",
    "do", "dyn", "else", "enum", "extern", "false", "final", "fn", "for", "if", "impl", "in", "let",
    "loop", "macro", "match", "mod", "move", "mut", "override", "priv", "pub", "ref", "return",
    "Self", "self", "static", "struct", "super", "trait", "true", "try", "type", "typeof", "unsafe",
    "unsized", "use", "virtual", "where", "while", "yield"]

/-- Whether an identifier is written in the raw form, which keeps a keyword apart. -/
def isRaw (identifier : String) : Bool := ['r', '#'].isPrefixOf identifier.toList

/-- What a text spells. -/
inductive Reading where
  | plain (identifier : String)
  | raw (identifier : String)
  | none
  deriving DecidableEq, Repr

/-- The identifier that a text spells, as it is written there. -/
def read (text : String) : Reading :=
  match Token.read text with
  | some [⟨.identifier name, _⟩] =>
    if keywords.contains name then .none else if isRaw name then .raw name else .plain name
  | _ => .none

/-- The form that identifiers are compared in. To the language two identifiers are one if their composed
forms (NFC) are equal, which is so exactly if their decompositions are. -/
def canonical (identifier : String) : String := String.ofList (Text.decomposed identifier.toList)

end StatSchema.Identifier
