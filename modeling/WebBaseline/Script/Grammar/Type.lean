import WebBaseline.Script.Grammar.Word

/-!
The rules of types, and of the declarations that only stand where types are written.
-/

namespace WebBaseline.Script.Grammar

open Script.Part Rule

/-! ### Declarations -/

def typeDeclarationRules : List (Part × Rule) := [
  (.ambientDeclaration,
    seq ["declare",
      alt [declaration, seq ["global", block],
        seq ["module", ".", name, ":", anyType, semicolon]]]),
  (.moduleDeclaration, seq ["module", moduleTail]),
  (.namespaceDeclaration, seq ["namespace", moduleTail]),
  (.moduleTail, right (seq [alt [stringLiteral, name, dottedName], opt [block]])),
  (.interfaceDeclaration,
    seq ["interface", name, opt [typeParameters], opt [extendsTypes], objectType]),
  (.extendsTypes, seq ["extends", listed (alt [name, dottedType, genericType])]),
  (.enumDeclaration, seq [opt ["const"], "enum", name, enumBody]),
  (.enumBody,
    seq ["\x7b", opt [listed (alt [propertyName, enumAssignment]), opt [","]], "\x7d"]),
  (.enumAssignment, seq [propertyName, initialValue]),
  (.typeAlias, seq ["type", name, opt [typeParameters], "=", anyType, semicolon])]

/-! ### Type clauses -/

def typeClauseRules : List (Part × Rule) := [
  (.requiredTypeClause, seq ["-?:", anyType]),
  (.addedTypeClause, seq ["+?:", anyType]),
  (.optionalTypeClause, seq ["?:", anyType]),
  (.typeClause, seq [":", anyType]),
  (.assertsClause, seq ["asserts", alt [typePredicate, name, "this"]]),
  (.assertionClause, seq [":", assertsClause]),
  (.typePredicate, seq [alt [name, "this", predefinedType], "is", anyType]),
  (.predicateClause, seq [":", typePredicate])]

/-! ### Values in types -/

/-- The member of a module that a type names. -/
def importedMemberNode : Rule :=
  named .member importedMember

def queryLinks : List Rule :=
  [named .subscript querySubscript, named .member queryMember]

/-- What a member or a subscript in a query belongs to. -/
def queryObject : Rule :=
  inRole .object (alt [name, "this", alt queryLinks, queryCall])

/-- What is called or instantiated in a query. -/
def queryCallee : Rule :=
  alt [importWord, name, alt queryLinks]

/-- The rules of the values whose types are queried. -/
def queryRules : List (Part × Rule) := [
  (.importedMember,
    seq [inRole .object (alt [importWord, importedMemberNode, importedCall]), ".", memberName]),
  (.importedCall, seq [alt [importWord, importedMemberNode], arguments]),
  (.queryMember, seq [queryObject, alt [".", "?."], memberName]),
  (.querySubscript,
    seq [queryObject, opt ["?."], "[", inRole .index (alt [predefinedType, stringLiteral, number]),
      "]"]),
  (.queryCall, seq [queryCallee, arguments]),
  (.queryInstantiation, seq [queryCallee, typeArguments]),
  (.typeQuery,
    right (seq ["typeof", alt [alt queryLinks, queryCall, queryInstantiation, name, "this"]])),
  (.keyQuery, seq ["keyof", primaryType])]

/-! ### Types -/

def typeMember : Rule :=
  alt [exportStatement, propertySignature, callSignature, constructSignature, indexSignature,
    methodSignature]

def typeRules (d : Dialect) : List (Part × Rule) := [
  (.anyType,
    alt [primaryType, functionType, readonlyType, constructorType, inferType,
      binds (.level (-1)) importedMemberNode, binds (.level (-1)) importedCall]),
  (.primaryType,
    alt [groupType, predefinedType, name, dottedType, genericType, objectType, arrayType, tupleType,
      maybeType, typeQuery, keyQuery, "this", existentialType, literalType, lookupType, conditionalType,
      templateLiteralType, intersectionType, unionType, "const"]),
  (.dottedType, binds .member (seq [alt [name, dottedName], ".", name])),
  (.tupleParameter, seq [alt [name, restPattern], typeClause]),
  (.optionalTupleParameter, seq [name, "?", typeClause]),
  (.optionalType, seq [anyType, "?"]),
  (.restType, seq ["...", anyType]),
  (.tupleMember, alt [tupleParameter, optionalTupleParameter, optionalType, restType, anyType]),
  (.constructorType,
    left (seq [opt ["abstract"], "new", opt [typeParameters], parameters, "=>", anyType])),
  (.templateType, seq ["$\x7b", alt [primaryType, inferType], "\x7d"]),
  (.templateLiteralType, seq ["`", many (alt [named .fragment Token.templateText, templateType]), "`"]),
  (.inferType, right (seq ["infer", name, opt ["extends", anyType]])),
  (.conditionalType,
    right (seq [anyType, "extends", anyType, "?", anyType, ":", anyType])),
  (.genericType, binds .call (seq [alt [name, dottedType], typeArguments])),
  (.lookupType, seq [primaryType, "[", anyType, "]"]),
  (.mappedKeys, seq [name, "in", anyType, opt ["as", anyType]]),
  (.literalType, alt [signedNumber, number, stringLiteral, "true", "false", "null", "undefined"]),
  (.signedNumber, bindsLeft (.level 1) (seq [alt ["-", "+"], number])),
  (.existentialType, "*"),
  (.maybeType, right (seq ["?", primaryType])),
  (.groupType, seq ["(", anyType, ")"]),
  (.predefinedType,
    alt ["any", "number", "boolean", "string", "symbol", seq ["unique", "symbol"], "void", "unknown",
      "never", "object"]),
  (.typeArguments, seq ["<", listed anyType, opt [","], ">"]),
  (.objectType,
    seq [alt ["\x7b", "\x7b|"],
      opt [opt [alt [",", ";"]], separated (alt [",", semicolon]) typeMember,
        opt [alt [",", semicolon]]],
      alt ["\x7d", "|\x7d"]]),
  (.callSignature, signature),
  (.propertySignature,
    seq [opt [accessModifier], opt ["static"], opt [overrideModifier], opt ["readonly"], propertyName,
      opt ["?"], opt [typeClause]]),
  (.typeParameters, seq ["<", listed typeParameter, opt [","], ">"]),
  (.typeParameter, seq [opt ["const"], name, opt [typeConstraint], opt [defaultType]]),
  (.defaultType, seq ["=", anyType]),
  (.typeConstraint, seq [alt ["extends", ":"], anyType]),
  (.constructSignature,
    seq [opt ["abstract"], "new", opt [typeParameters], parameters, opt [typeClause]]),
  (.indexSignature,
    seq [opt [opt [alt ["-", "+"]], "readonly"], "[", alt [seq [anyName d, ":", anyType], mappedKeys],
      "]", alt [typeClause, requiredTypeClause, addedTypeClause, optionalTypeClause]]),
  (.arrayType, seq [primaryType, "[", "]"]),
  (.tupleType, seq ["[", opt [listed tupleMember], opt [","], "]"]),
  (.readonlyType, seq ["readonly", anyType]),
  (.unionType, left (seq [opt [anyType], "|", anyType])),
  (.intersectionType, left (seq [opt [anyType], "&", anyType])),
  (.functionType,
    left (seq [opt [typeParameters], parameters, "=>", alt [anyType, assertsClause, typePredicate]]))]

end WebBaseline.Script.Grammar
