import WebBaseline.Script.Rule

/-!
The tokens as rules, and the short rules that stand in many places of the grammar.
-/

namespace WebBaseline.Script.Grammar

open Rule

def name : Rule := Token.name

def privateName : Rule := Token.privateName

def number : Rule := Token.number

/-- The end of a statement without a semicolon. -/
def lineEnd : Rule := Token.lineEnd

def semicolon : Rule :=
  alt [lineEnd, ";"]

/-- The words that are also names. Types add many of them. -/
def softWord (d : Dialect) : Rule :=
  if d.typed then
    alt ["declare", "namespace", "type", "public", "private", "protected", "override", "readonly",
      "module", "any", "number", "boolean", "string", "symbol", "export", "object", "new", "get", "set",
      "async", "static", "let"]
  else alt ["get", "set", "async", "await", "static", "export", "let"]

/-- A word as the name of a value. -/
def softName (d : Dialect) : Rule :=
  named .identifier (softWord d)

/-- A name that may be any of the words. -/
def anyName (d : Dialect) : Rule :=
  alt [name, softWord d]

def valueName : Rule :=
  alt ["undefined", name]

def dotName : Rule :=
  inRole .property (named .propertyName name)

/-- The name behind a point, which may also be private. -/
def memberName : Rule :=
  inRole .property (alt [privateName, named .propertyName name])

/-- Lets names be reserved words. Where types are written, no words are reserved. -/
def unreserved (d : Dialect) (r : Rule) : Rule :=
  if d.typed then r else free r

/-- An expression, or several with commas between them. -/
def expressions : Rule :=
  alt [Part.expression, Part.sequenceExpression]

/-- What may stand only where types are written. -/
def ifTyped (d : Dialect) (r : Rule) : Rule :=
  if d.typed then r else empty

/-- One of the shared rules, or of those that there are with or without types. -/
def altIn (d : Dialect) (shared typed plain : List Rule) : Rule :=
  alt (shared ++ if d.typed then typed else plain)

def target (d : Dialect) : Rule :=
  altIn d [Part.member, Part.subscript, valueName, softName d, Part.destructuring] [Part.nonNull] []

/-- A name or a pattern that a declaration binds. -/
def binding : Rule :=
  alt [name, Part.destructuring]

/-- The point of an optional access. -/
def optionalPoint (d : Dialect) : Rule :=
  if d.typed then Part.optionalDot else "?."

end WebBaseline.Script.Grammar
