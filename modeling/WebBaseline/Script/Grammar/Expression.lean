import WebBaseline.Script.Grammar.Word

/-!
The rules of expressions. An operand is a primary expression with its accesses and calls; operators bind
operands by their strength.
-/

namespace WebBaseline.Script.Grammar

open Script.Part Rule

/-- An element with its content, or an empty one. -/
def anyElement : Rule :=
  alt [element, emptyTag]

/-- The items of an array or the arguments of a call. -/
def spreadItems : Rule :=
  opt [listed (opt [alt [expression, spread]])]

/-! ### Operators -/

/-- A binary operator that is taken from the left. -/
def operator (s : Strength) (marks : List String) : List Rule :=
  marks.map fun (mark : String) => bindsLeft s (seq [expression, mark, expression])

def operators : List Rule :=
  operator .logicAnd ["&&"] ++ operator .logicOr ["||"] ++ operator .shift [">>", ">>>", "<<"] ++
  operator .bitAnd ["&"] ++ operator .bitXor ["^"] ++ operator .bitOr ["|"] ++
  operator .plus ["+", "-"] ++ operator .product ["*", "/", "%"] ++
  [bindsRight .power (seq [expression, "**", expression])] ++
  operator .relation ["<", "<="] ++ operator .equality ["==", "===", "!=", "!=="] ++
  operator .relation [">=", ">"] ++ operator .choice ["??"] ++ operator .relation ["instanceof"] ++
  [bindsLeft .relation (seq [alt [expression, privateName], "in", expression])]

/-- The operators that change a place by a value. -/
def updateOperators : Rule :=
  alt ["+=", "-=", "*=", "/=", "%=", "^=", "&=", "|=", ">>=", ">>>=", "<<=", "**=", "&&=", "||=", "??="]

def operatorRules (d : Dialect) : List (Part × Rule) := [
  (.yieldExpression, right (seq ["yield", alt [seq ["*", expression], opt [expression]]])),
  (.awaitExpression, binds .unaryWord (seq ["await", expression])),
  (.assignment,
    bindsRight .assign
      (seq [ifTyped d (opt ["using"]), alt [group, target d], "=", expression])),
  (.updateTarget, altIn d [member, subscript, softName d, name, group] [nonNull] []),
  (.updateAssignment, bindsRight .assign (seq [updateTarget, updateOperators, expression])),
  (.initialValue, seq ["=", expression]),
  (.spread, seq ["...", expression]),
  (.choiceExpression,
    bindsRight .choice (seq [expression, Token.choiceMark, expression, ":", expression])),
  (.binaryExpression, alt operators),
  (.unaryExpression,
    bindsLeft .unaryWord (seq [alt ["!", "~", "-", "+", "typeof", "void", "delete"], expression])),
  (.countExpression,
    left (alt [seq [expression, alt ["++", "--"]], seq [alt ["++", "--"], expression]])),
  (.sequenceExpression, right (listed expression)),
  (.nonNull, bindsLeft .unary (seq [expression, "!"])),
  (.castExpression, bindsLeft .unary (seq [typeArguments, expression])),
  (.asExpression, bindsLeft .binary (seq [expression, "as", alt ["const", anyType]])),
  (.satisfiesExpression, bindsLeft .binary (seq [expression, "satisfies", anyType])),
  (.instantiation, binds .instantiation (seq [expression, typeArguments]))]

/-! ### Operands -/

def accessRules (d : Dialect) : List (Part × Rule) := [
  (.optionalDot, "?."),
  (.call,
    alt [
      binds .call (seq [alt [expression, importWord], ifTyped d (opt [typeArguments]), arguments]),
      binds .templateCall (seq [alt [primary, construct], template]),
      binds .member (seq [primary, "?.", ifTyped d (opt [typeArguments]), arguments])]),
  (.construct,
    bindsRight .construct
      (if d.typed then
        seq ["new", inRole .constructor primary, opt [typeArguments], opt [arguments]]
      else seq ["new", inRole .constructor (alt [primary, construct]), opt [weighed 1 arguments]])),
  (.member,
    binds .member
      (seq [inRole .object (alt [expression, primary, importWord]), alt [".", optionalPoint d],
        unreserved d memberName])),
  (.subscript,
    bindsRight .member
      (seq [inRole .object (alt [expression, primary]), opt [optionalPoint d], "[",
        inRole .index expressions, "]"])),
  (.metaProperty, alt [seq ["new", ".", "target"], seq ["import", ".", "meta"]]),
  (.arguments, seq ["(", spreadItems, ")"])]

def operandRules (d : Dialect) : List (Part × Rule) := [
  (.group,
    seq ["(", alt [seq [expression, ifTyped d (opt [typeClause])], sequenceExpression], ")"]),
  (.expression,
    altIn d
      [primary, if d.elements then anyElement else castExpression, assignment, updateAssignment,
        awaitExpression, unaryExpression, binaryExpression, choiceExpression, countExpression,
        construct, yieldExpression]
      [asExpression, satisfiesExpression, instantiation, namespaceDeclaration] []),
  (.primary,
    altIn d
      [subscript, member, group, valueName, softName d, "this", "super", number, stringLiteral,
        template, patternLiteral, "true", "false", "null", object, array, functionExpression,
        arrowFunction, generatorExpression, classExpression, metaProperty, call]
      [nonNull] []),
  (.object,
    binds .object
      (seq ["\x7b", opt [listed (opt [alt [pair, spread, methodDefinition, anyName d]])], "\x7d"])),
  (.pair, seq [propertyName, ":", expression]),
  (.array, seq ["[", spreadItems, "]"])]

/-! ### Literals -/

/-- A text between marks, made of stretches and other items. -/
def between (mark : String) (stretch item : Rule) : Rule :=
  seq [mark, many (alt [named .fragment stretch, item]), mark]

/-- A text between quotes of one of the two forms. -/
def quoted (stretch : Quote → Token) (item : Rule) : Rule :=
  alt [between "\"" (stretch .double) item, between "'" (stretch .single) item]

def literalRules : List (Part × Rule) := [
  (.stringLiteral, quoted Token.fragment Token.escape),
  (.template, between "`" Token.templateText (alt [Token.escape, substitution])),
  (.substitution, seq ["$\x7b", expressions, "\x7d"]),
  (.patternLiteral, seq ["/", Token.pattern, Token.patternEnd, opt [Token.flags]])]

/-! ### Patterns -/

/-- The rules of what values are taken apart into. -/
def patternRules (d : Dialect) : List (Part × Rule) := [
  (.objectPattern,
    binds .object
      (seq ["\x7b", opt [listed (opt [alt [pairPattern, restPattern, defaultedProperty, anyName d]])],
        "\x7d"])),
  (.pairPattern, seq [propertyName, ":", alt [pattern, defaultedPattern]]),
  (.defaultedPattern, seq [pattern, "=", expression]),
  (.defaultedProperty, seq [alt [anyName d, destructuring], "=", expression]),
  (.arrayPattern, seq ["[", opt [listed (opt [alt [pattern, defaultedPattern]])], "]"]),
  (.destructuring, alt [objectPattern, arrayPattern]),
  (.pattern, weighed (-1) (alt [target d, restPattern])),
  (.restPattern, right (seq ["...", target d]))]

def expressionRules (d : Dialect) : List (Part × Rule) :=
  operatorRules d ++ accessRules d ++ operandRules d ++ literalRules ++ patternRules d

end WebBaseline.Script.Grammar
