import WebBaseline.Script.Grammar.Word

/-!
The rules of classes and functions, with their members, parameters and decorators.
-/

namespace WebBaseline.Script.Grammar

open Script.Part Rule

/-! ### Functions -/

/-- The parameters of a function, with its types where types are written. -/
def head (d : Dialect) : Rule :=
  if d.typed then signature else parameters

def parameterItem (d : Dialect) : Rule :=
  if d.typed then parameter else alt [pattern, defaultedPattern]

def functionRules (d : Dialect) : List (Part × Rule) := [
  (.functionExpression,
    binds .literal (seq [opt ["async"], "function", opt [name], head d, block])),
  (.functionDeclaration,
    bindsRight .declare (seq [opt ["async"], "function", name, head d, block, opt [lineEnd]])),
  (.generatorExpression,
    binds .literal (seq [opt ["async"], "function", "*", opt [name], head d, block])),
  (.generatorDeclaration,
    bindsRight .declare (seq [opt ["async"], "function", "*", name, head d, block, opt [lineEnd]])),
  (.arrowFunction,
    seq [opt ["async"], alt [softName d, name, head d], "=>", alt [expression, block]]),
  (.signature,
    seq [opt [typeParameters], parameters,
      opt [alt [typeClause, assertionClause, predicateClause]]]),
  (.parameter, alt [requiredParameter, optionalParameter]),
  (.parameters, seq ["(", opt [listed (parameterItem d), opt [","]], ")"]),
  (.requiredParameter, seq [parameterName, opt [typeClause], opt [initialValue]]),
  (.optionalParameter, seq [parameterName, "?", opt [typeClause], opt [initialValue]]),
  (.parameterName,
    seq [many decorator, opt [accessModifier], opt [overrideModifier], opt ["readonly"],
      alt [pattern, "this"]]),
  (.functionSignature,
    seq [opt ["async"], "function", name, head d, alt [semicolon, Token.headEnd]])]

/-! ### Classes -/

def classHead (d : Dialect) (className : Rule) : Rule :=
  seq ["class", className, ifTyped d (opt [typeParameters]), opt [classHeritage]]

/-- The member of a class that a decorator stands for. -/
def decorated : Rule :=
  alt [name, named .member decoratorMember, decoratorCall]

def classRules (d : Dialect) : List (Part × Rule) := [
  (.classExpression,
    binds .literal (seq [many decorator, classHead d (opt [name]), classBody])),
  (.classDeclaration,
    bound .declare (if d.typed then some .left else none)
      (seq [many decorator, classHead d name, classBody, opt [lineEnd]])),
  (.abstractClass, binds .declare (seq [many decorator, "abstract", classHead d name, classBody])),
  (.classHeritage,
    if d.typed then alt [seq [extendsClause, opt [implementsClause]], implementsClause]
    else seq ["extends", expression]),
  (.extendsClause, seq ["extends", listed extendedClass]),
  (.extendedClass, binds .extended (seq [expression, opt [typeArguments]])),
  (.implementsClause, seq ["implements", listed anyType]),
  (.decorator, seq ["@", altIn d [decorated] [decoratorGroup] []]),
  (.decoratorMember,
    binds .member
      (seq [inRole .object (alt [name, named .member decoratorMember]), ".", dotName])),
  (.decoratorCall,
    binds .call
      (seq [alt [name, named .member decoratorMember], ifTyped d (opt [typeArguments]), arguments])),
  (.decoratorGroup, seq ["(", decorated, ")"])]

/-! ### Members -/

/-- The words before a method that say how it is reached. -/
def accessor : Rule :=
  opt [alt ["get", "set", "*"]]

/-- The words before a member of a class or an interface. -/
def modifiers : Rule :=
  seq [opt [accessModifier], opt ["static"], opt [overrideModifier], opt ["readonly"]]

/-- The words before a typed field, in the orders that are allowed. -/
def fieldModifiers : Rule :=
  seq [
    opt [alt [seq ["declare", opt [accessModifier]], seq [accessModifier, opt ["declare"]]]],
    alt [seq [opt ["static"], opt [overrideModifier], opt ["readonly"]],
      seq [opt ["abstract"], opt ["readonly"]], seq [opt ["readonly"], opt ["abstract"]],
      opt ["accessor"]]]

def classMember (d : Dialect) : Rule :=
  altIn d [staticBlock, ";"]
    [seq [many decorator, methodDefinition, opt [semicolon]],
      seq [methodSignature, alt [Token.headEnd, ","]],
      seq [alt [abstractMethod, indexSignature, methodSignature, typedField], alt [semicolon, ","]]]
    [seq [methodDefinition, opt [";"]], seq [fieldDefinition, semicolon]]

def memberRules (d : Dialect) : List (Part × Rule) := [
  (.classBody, seq ["\x7b", many (classMember d), "\x7d"]),
  (.fieldDefinition, seq [many decorator, opt ["static"], propertyName, opt [initialValue]]),
  (.staticBlock, seq ["static", block]),
  (.methodDefinition,
    if d.typed then
      left (seq [modifiers, opt ["async"], accessor, propertyName, opt ["?"], head d, block])
    else
      seq [many decorator, opt [alt ["static", Token.staticGetter]], opt ["async"], accessor,
        propertyName, parameters, block]),
  (.propertyName,
    unreserved d (alt [anyName d, privateName, stringLiteral, number, computedName])),
  (.computedName, seq ["[", expression, "]"]),
  (.typedField,
    seq [many decorator, fieldModifiers, propertyName, opt [alt ["?", "!"]], opt [typeClause],
      opt [initialValue]]),
  (.methodSignature, seq [modifiers, opt ["async"], accessor, propertyName, opt ["?"], head d]),
  (.abstractMethod,
    seq [opt [accessModifier], "abstract", opt [overrideModifier], accessor, propertyName, opt ["?"],
      head d]),
  (.accessModifier, alt ["public", "private", "protected"]),
  (.overrideModifier, "override")]

end WebBaseline.Script.Grammar
