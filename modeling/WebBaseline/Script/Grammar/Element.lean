import WebBaseline.Script.Grammar.Expression

/-!
The rules of markup elements in scripts.
-/

namespace WebBaseline.Script.Grammar

open Script.Part Rule

/-- A name in a tag, with hyphens or without. -/
def tagWord : Rule :=
  alt [named .identifier Token.hyphenated, name]

/-- A name of parts with points between them. -/
def dottedTagName : Rule :=
  named .member dottedName

def tagName : Rule :=
  alt [tagWord, dottedTagName, namespacedName]

def attributes : Rule :=
  many (alt [elementAttribute, elementExpression])

/-- A tag up to its end. Where types are written, the name may have type arguments. -/
def tagStart : Rule :=
  seq ["<",
    opt [alt [tagWord, namespacedName, seq [alt [name, dottedTagName], opt [typeArguments]]], attributes]]

def elementRules (d : Dialect) : List (Part × Rule) := [
  (.element,
    seq [openingTag, many (alt [Token.elementText, Token.reference, anyElement, elementExpression]),
      closingTag]),
  (.elementExpression, seq ["\x7b", opt [alt [expression, sequenceExpression, spread]], "\x7d"]),
  (.openingTag,
    weighed (-1)
      (if d.typed then seq [tagStart, ">"] else seq ["<", opt [tagName, attributes], ">"])),
  (.dottedName,
    binds .member (seq [inRole .object (alt [name, dottedTagName]), ".", dotName])),
  (.namespacedName, seq [tagWord, ":", tagWord]),
  (.closingTag, seq ["</", opt [tagName], ">"]),
  (.emptyTag,
    if d.typed then weighed (-1) (seq [tagStart, "/>"]) else seq ["<", tagName, attributes, "/>"]),
  (.elementAttribute,
    seq [alt [tagWord, namespacedName],
      opt ["=", alt [named .string attributeString, elementExpression, anyElement]]]),
  (.attributeString, quoted Token.attributeText Token.reference)]

end WebBaseline.Script.Grammar
