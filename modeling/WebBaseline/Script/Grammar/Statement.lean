import WebBaseline.Script.Grammar.Word

/-!
The rules of statements and declarations.
-/

namespace WebBaseline.Script.Grammar

open Script.Part Rule

/-- The words that declare values which are given back at the end of their block. -/
def usingWords : Rule :=
  alt ["using", seq ["await", "using"]]

/-- The first clause of a loop that counts, or its condition. -/
def loopClause : Rule :=
  alt [seq [expressions, ";"], emptyStatement]

/-- What a loop over elements binds. -/
def loopBinding (d : Dialect) : Rule :=
  altIn d
    [target d, group, seq ["var", binding, opt [initialValue]],
      seq [alt ["let", "const"], binding, opt [lineEnd]]]
    []
    [seq [usingWords, binding, opt [lineEnd]]]

def statementRules (d : Dialect) : List (Part × Rule) := [
  (.declaration,
    altIn d
      [functionDeclaration, generatorDeclaration, classDeclaration, lexicalDeclaration,
        variableDeclaration]
      [functionSignature, abstractClass, moduleDeclaration, binds .declare namespaceDeclaration,
        typeAlias, enumDeclaration, interfaceDeclaration, importAlias, ambientDeclaration]
      [usingDeclaration]),
  (.statement,
    alt [exportStatement, importStatement, debuggerStatement, expressionStatement, declaration, block,
      ifStatement, switchStatement, forStatement, forEachStatement, whileStatement, doStatement,
      tryStatement, withStatement, breakStatement, continueStatement, returnStatement, throwStatement,
      emptyStatement, labelledStatement]),
  (.expressionStatement, seq [expressions, semicolon]),
  (.variableDeclaration, seq ["var", listed declarator, semicolon]),
  (.lexicalDeclaration, seq [alt ["let", "const"], listed declarator, semicolon]),
  (.usingDeclaration, seq [usingWords, listed declarator, semicolon]),
  (.declarator,
    altIn d [seq [binding, ifTyped d (opt [typeClause]), opt [initialValue]]]
      [binds .declare (seq [name, "!", typeClause])] []),
  (.block, right (seq ["\x7b", many statement, "\x7d", opt [lineEnd]])),
  (.elseClause, seq ["else", statement]),
  (.ifStatement, right (seq ["if", group, statement, opt [elseClause]])),
  (.switchStatement, seq ["switch", group, switchBody]),
  (.forStatement,
    seq ["for", "(", alt [lexicalDeclaration, variableDeclaration, loopClause], loopClause,
      opt [expressions], ")", statement]),
  (.forEachStatement, seq ["for", opt ["await"], forEachHead, statement]),
  (.forEachHead, seq ["(", loopBinding d, alt ["in", "of"], expressions, ")"]),
  (.whileStatement, seq ["while", group, statement]),
  (.doStatement, right (seq ["do", statement, "while", group, opt [semicolon]])),
  (.tryStatement, seq ["try", block, opt [catchClause], opt [finallyClause]]),
  (.withStatement, seq ["with", group, statement]),
  (.breakStatement, seq ["break", opt [name], semicolon]),
  (.continueStatement, seq ["continue", opt [name], semicolon]),
  (.debuggerStatement, seq ["debugger", semicolon]),
  (.returnStatement, seq ["return", opt [expressions], semicolon]),
  (.throwStatement, seq ["throw", expressions, semicolon]),
  (.emptyStatement, ";"),
  (.labelledStatement, weighed (-1) (seq [anyName d, ":", statement])),
  (.switchBody, seq ["\x7b", many (alt [switchCase, switchDefault]), "\x7d"]),
  (.switchCase, seq ["case", expressions, ":", many statement]),
  (.switchDefault, seq ["default", ":", many statement]),
  (.catchClause,
    seq ["catch", opt ["(", binding, ifTyped d (opt [typeClause]), ")"], block]),
  (.finallyClause, seq ["finally", block])]

end WebBaseline.Script.Grammar
