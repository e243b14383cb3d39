import WebBaseline.Script.Order

/-!
The orders of strengths in scripts.
-/

namespace WebBaseline.Script.Grammar

/-- The orders of all dialects. -/
def plainOrders : List (List Rank) := [
  [Strength.member, Strength.templateCall, Strength.call, Part.countExpression, Strength.unaryWord,
    Strength.power, Strength.product, Strength.plus, Strength.shift, Strength.relation,
    Strength.equality, Strength.bitAnd, Strength.bitXor, Strength.bitOr, Strength.logicAnd,
    Strength.logicOr, Strength.choice, Part.sequenceExpression, Part.arrowFunction],
  [Strength.assign, Part.primary],
  [Strength.member, Strength.templateCall, Strength.construct, Strength.call, Part.expression],
  [Strength.declare, Strength.literal],
  [Part.primary, Part.block, Strength.object],
  [Part.metaProperty, Part.importWord],
  [Part.importStatement, Part.importWord],
  [Part.exportStatement, Part.primary],
  [Part.lexicalDeclaration, Part.primary]]

def typedOrders : List (List Rank) := [
  [Strength.call, Strength.instantiation, Strength.unary, Strength.binary, Part.awaitExpression,
    Part.arrowFunction],
  [Strength.extended, Strength.instantiation],
  [Part.intersectionType, Part.unionType, Part.conditionalType, Part.functionType, Strength.binary,
    Part.typePredicate, Part.readonlyType],
  [Strength.unaryWord, Part.expression],
  [Strength.unary, Strength.assign],
  [Strength.declare, Part.expression]]

/-- The orders of the parts that only stand where types are written. -/
def typeOrders : List (List Part) := [
  [.mappedKeys, .primary],
  [.accessModifier, .primary],
  [.extendsClause, .primary],
  [.predefinedType, .unaryExpression],
  [.anyType, .maybeType],
  [.tupleType, .arrayType, .pattern, .anyType],
  [.readonlyType, .pattern],
  [.readonlyType, .primary],
  [.typeQuery, .subscript, .expression],
  [.typeQuery, .querySubscript],
  [.dottedType, .genericType, .primaryType, .lookupType, .keyQuery, .anyType],
  [.asExpression, .satisfiesExpression, .primaryType],
  [.queryMember, .member],
  [.member, .importedMember],
  [.queryMember, .primary],
  [.querySubscript, .subscript],
  [.querySubscript, .primary],
  [.queryCall, .primary],
  [.queryInstantiation, .primary],
  [.typeQuery, .primary],
  [.overrideModifier, .primary],
  [.decoratorCall, .decorator],
  [.literalType, .pattern],
  [.predefinedType, .pattern],
  [.call, .queryCall],
  [.call, .importedCall],
  [.construct, .primary],
  [.metaProperty, .primary],
  [.constructSignature, .propertyName]]

def orders (d : Dialect) : List (List Rank) :=
  if d.typed then plainOrders ++ typedOrders ++ typeOrders.map (·.map Rank.part) else plainOrders

end WebBaseline.Script.Grammar
