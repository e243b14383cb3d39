import WebBaseline.Script.Grammar.Class
import WebBaseline.Script.Grammar.Element
import WebBaseline.Script.Grammar.Module
import WebBaseline.Script.Grammar.Order
import WebBaseline.Script.Grammar.Statement
import WebBaseline.Script.Grammar.Type
import WebBaseline.Script.Parse
import WebBaseline.Script.Scan

/-!
The grammar of scripts, as tables for its dialects. `parse?` gives the syntax tree of a script, if its
syntax is right.
-/

namespace WebBaseline.Script

namespace Grammar

def rules (d : Dialect) : List (Part × Rule) :=
  moduleRules d ++ statementRules d ++ expressionRules d ++ elementRules d ++ functionRules d ++
    classRules d ++ memberRules d ++ typeDeclarationRules ++ typeClauseRules ++ queryRules ++
    typeRules d

def makeTable (d : Dialect) : GrammarTable :=
  GrammarTable.ofRules d (orders d) (rules d)

/-- The table of scripts without types. -/
def plainTable : GrammarTable := makeTable ⟨false, true⟩

/-- The table of scripts with types and without elements. -/
def typedTable : GrammarTable := makeTable ⟨true, false⟩

/-- The table of scripts with types and elements. -/
def typedElementTable : GrammarTable := makeTable ⟨true, true⟩

/-- The table of a dialect. Scripts without types always have elements. -/
def table (d : Dialect) : GrammarTable :=
  if d.typed then if d.elements then typedElementTable else typedTable else plainTable

end Grammar

/-- A parser gives the syntax tree of a script, if its syntax is right. -/
abbrev Parser := Dialect → Text → Option Node

def parse? : Parser := fun d text =>
  (Grammar.table d).tree? text

/-- The findings of a script. A script whose syntax is wrong has none. -/
def scan (d : Dialect) (text : Text) (index : Index) (parse : Parser := parse?) : List Finding :=
  match parse d text with
  | none => []
  | some root => scanTree (Source.ofText text) index root

end WebBaseline.Script
