import WebBaseline.Journal
import WebBaseline.Markup.Scan
import WebBaseline.Path
import WebBaseline.Script.Grammar
import WebBaseline.Stylesheet.Scan

/-!
The languages that can be scanned, by their names and by the endings of file names.
-/

namespace WebBaseline

inductive Language where
  | css
  | html
  | javascript
  | javascriptReact
  | typescript
  | typescriptReact
deriving DecidableEq, Repr

namespace Language

def name : Language → Text
  | css => "css"
  | html => "html"
  | javascript => "javascript"
  | javascriptReact => "javascriptreact"
  | typescript => "typescript"
  | typescriptReact => "typescriptreact"

def all : List Language := [css, html, javascript, javascriptReact, typescript, typescriptReact]

def ofName? (s : Text) : Option Language :=
  all.find? fun l => l.name = s

/-- The endings of file names, with their languages. -/
def suffixes : List (Text × Language) := [
  (".css", css), (".html", html), (".htm", html), (".js", javascript), (".mjs", javascript),
  (".cjs", javascript), (".jsx", javascriptReact), (".ts", typescript), (".mts", typescript),
  (".cts", typescript), (".tsx", typescriptReact)]

/-- The language of a file, by the ending of its name. -/
def ofPath? (path : Text) : Option Language :=
  suffixes.lookup (Path.suffix path).lower

def dialect? : Language → Option Script.Dialect
  | css => none
  | html => none
  | javascript => some ⟨false, true⟩
  | javascriptReact => some ⟨false, true⟩
  | typescript => some ⟨true, false⟩
  | typescriptReact => some ⟨true, true⟩

/-- The dialect in which a script of a named language is parsed; the usual one is plain with elements. -/
def dialectOfName (s : Text) : Script.Dialect :=
  ((ofName? s).bind dialect?).getD ⟨false, true⟩

def scan (language : Language) (text : Text) (index : Index) (parse : Script.Parser := Script.parse?) :
    List Finding :=
  match language with
  | css => Stylesheet.scan text index
  | html => Markup.scan text index
  | _ =>
    match language.dialect? with
    | some d => Script.scan d text index parse
    | none => []

/-- The findings of a source text and the notes on it where scripts cannot be parsed. -/
def scanUnparsed (language : Language) (text : Text) (index : Index) : List Finding × Journal :=
  match language.dialect? with
  | some _ => ([], [.notParsed language.name])
  | none => (language.scan text index, [])

end Language

/-- The findings of a text in the language of a name; a name that is not known gives none. -/
def scan (text language : Text) (index : Index) (parse : Script.Parser := Script.parse?) : List Finding :=
  match Language.ofName? language with
  | some l => l.scan text index parse
  | none => []

end WebBaseline
