import WebBaseline.Script.Tree

/-!
The parts of scripts that have rules of their own. Their order here is the order in which they are tried
where two of them are equally good.
-/

namespace WebBaseline.Script

inductive Part where
  -- Modules
  | script
  | exportStatement
  | namespaceExport
  | exportList
  | exportItem
  | exportedName
  | declaration
  | importWord
  | importStatement
  | importClause
  | fromClause
  | namespaceImport
  | importList
  | importItem
  | importAttribute
  -- Statements
  | statement
  | expressionStatement
  | variableDeclaration
  | lexicalDeclaration
  | usingDeclaration
  | declarator
  | block
  | elseClause
  | ifStatement
  | switchStatement
  | forStatement
  | forEachStatement
  | forEachHead
  | whileStatement
  | doStatement
  | tryStatement
  | withStatement
  | breakStatement
  | continueStatement
  | debuggerStatement
  | returnStatement
  | throwStatement
  | emptyStatement
  | labelledStatement
  | switchBody
  | switchCase
  | switchDefault
  | catchClause
  | finallyClause
  -- Expressions
  | group
  | expression
  | primary
  | yieldExpression
  | object
  | objectPattern
  | defaultedPattern
  | defaultedProperty
  | array
  | arrayPattern
  -- Elements
  | element
  | elementExpression
  | openingTag
  | dottedName
  | namespacedName
  | closingTag
  | emptyTag
  | elementAttribute
  | attributeString
  -- Classes and functions
  | classExpression
  | classDeclaration
  | classHeritage
  | functionExpression
  | functionDeclaration
  | generatorExpression
  | generatorDeclaration
  | arrowFunction
  | signature
  | parameter
  -- Operators
  | optionalDot
  | call
  | construct
  | awaitExpression
  | member
  | subscript
  | assignment
  | updateTarget
  | updateAssignment
  | initialValue
  | destructuring
  | spread
  | choiceExpression
  | binaryExpression
  | unaryExpression
  | countExpression
  | sequenceExpression
  -- Literals
  | stringLiteral
  | template
  | substitution
  | patternLiteral
  | metaProperty
  | arguments
  -- Class members
  | decorator
  | decoratorMember
  | decoratorCall
  | classBody
  | fieldDefinition
  | parameters
  | staticBlock
  | pattern
  | restPattern
  | methodDefinition
  | pair
  | pairPattern
  | propertyName
  | computedName
  -- Typed expressions and declarations
  | typedField
  | importName
  | nonNull
  | methodSignature
  | abstractMethod
  | functionSignature
  | decoratorGroup
  | castExpression
  | asExpression
  | satisfiesExpression
  | instantiation
  | importRequire
  | extendsClause
  | extendedClass
  | implementsClause
  | ambientDeclaration
  | abstractClass
  | moduleDeclaration
  | namespaceDeclaration
  | moduleTail
  | importAlias
  | dottedType
  | interfaceDeclaration
  | extendsTypes
  | enumDeclaration
  | enumBody
  | enumAssignment
  | typeAlias
  | accessModifier
  | overrideModifier
  | requiredParameter
  | optionalParameter
  | parameterName
  -- Types
  | requiredTypeClause
  | addedTypeClause
  | optionalTypeClause
  | typeClause
  | importedMember
  | importedCall
  | assertsClause
  | assertionClause
  | anyType
  | tupleParameter
  | optionalTupleParameter
  | optionalType
  | restType
  | tupleMember
  | constructorType
  | primaryType
  | templateType
  | templateLiteralType
  | inferType
  | conditionalType
  | genericType
  | typePredicate
  | predicateClause
  | queryMember
  | querySubscript
  | queryCall
  | queryInstantiation
  | typeQuery
  | keyQuery
  | lookupType
  | mappedKeys
  | literalType
  | signedNumber
  | existentialType
  | maybeType
  | groupType
  | predefinedType
  | typeArguments
  | objectType
  | callSignature
  | propertySignature
  | typeParameters
  | typeParameter
  | defaultType
  | typeConstraint
  | constructSignature
  | indexSignature
  | arrayType
  | tupleType
  | readonlyType
  | unionType
  | intersectionType
  | functionType
deriving DecidableEq, Hashable, Repr

namespace Part

/-- The place of a part in the order of the parts. -/
def place (p : Part) : Nat :=
  p.ctorIdx

/-- The kind of the node of a part. A part without one lends its nodes to the part around it. -/
def kind? : Part → Option Kind
  | member => some .member
  | subscript => some .subscript
  | construct => some .construct
  | stringLiteral => some .string
  | statement => none
  | declaration => none
  | expression => none
  | primary => none
  | pattern => none
  | anyType => none
  | primaryType => none
  | attributeString => none
  | importedMember => none
  | queryMember => none
  | querySubscript => none
  | _ => some .other

end Part

end WebBaseline.Script
