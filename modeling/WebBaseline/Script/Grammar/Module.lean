import WebBaseline.Script.Grammar.Word

/-!
The rules of modules: what a script exports and imports.
-/

namespace WebBaseline.Script.Grammar

open Script.Part Rule

/-- The mark of a name that stands for a type. -/
def typeMark (d : Dialect) : Rule :=
  ifTyped d (opt [alt ["type", "typeof"]])

/-- A name that is imported, as it is called in the script. -/
def importedAs (d : Dialect) : Rule :=
  if d.typed then importName else name

def moduleRules (d : Dialect) : List (Part × Rule) := [
  (.script, seq [opt [Token.interpreterLine], many statement, Token.scriptEnd]),
  (.exportStatement,
    altIn d
      [seq ["export",
        alt [seq ["*", fromClause], seq [namespaceExport, fromClause], seq [exportList, fromClause],
          exportList],
        semicolon],
      seq [many decorator, "export",
        alt [declaration, seq ["default", alt [declaration, seq [expression, semicolon]]]]]]
      [seq ["export", "type", exportList, opt [fromClause], semicolon],
      seq ["export", "=", expression, semicolon],
      seq ["export", "as", "namespace", name, semicolon]]
      []),
  (.namespaceExport, seq ["*", "as", exportedName]),
  (.exportList, seq ["\x7b", opt [listed exportItem], opt [","], "\x7d"]),
  (.exportItem, seq [typeMark d, exportedName, opt ["as", exportedName]]),
  (.exportedName, altIn d [name, stringLiteral] [] ["default"]),
  (.importWord, "import"),
  (.importStatement,
    seq ["import", typeMark d,
      altIn d [seq [importClause, fromClause], stringLiteral] [importRequire] [],
      opt [importAttribute], semicolon]),
  (.importClause,
    alt [namespaceImport, importList,
      seq [importedAs d, opt [",", alt [namespaceImport, importList]]]]),
  (.fromClause, seq ["from", stringLiteral]),
  (.namespaceImport, seq ["*", "as", name]),
  (.importList, seq ["\x7b", opt [listed importItem], opt [","], "\x7d"]),
  (.importItem,
    seq [typeMark d,
      alt [importedAs d, seq [altIn d [exportedName] ["type"] [], "as", importedAs d]]]),
  (.importAttribute, seq ["with", object]),
  (.importName, alt [name, "type"]),
  (.importRequire, seq [name, "=", "require", "(", stringLiteral, ")"]),
  (.importAlias, seq ["import", name, "=", alt [name, dottedName], semicolon])]

end WebBaseline.Script.Grammar
