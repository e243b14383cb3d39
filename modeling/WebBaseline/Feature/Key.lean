import WebBaseline.Text.Blank
import WebBaseline.Text.Case

/-!
Lookup keys. The compatibility data names a feature by a dotted path such as `css.properties.gap`.
From it come the keys under which a scanner finds the feature in a source.

Markup keys are in lower case: `prop`, `prop::value`, `:pseudo`, `::pseudo`, `@rule`, `tag`,
`tag@attr`, `tag@attr::value` and the bare name of a global attribute. Script keys keep their case:
`navigator.clipboard` as written in a program, `Navigator.clipboard` by interface, and the bare name of
an interface. A path also gives a guess at the page that documents the feature.
-/

namespace WebBaseline.Feature

def docsBase : Text := "https://developer.mozilla.org/en-US/docs"

def cssPage (name : Text) : Text :=
  docsBase ++ "/Web/CSS/" ++ name

/-- The parts of a dotted path; none if one of them is empty. -/
def parts (path : Text) : List Text :=
  let pieces := (Text.strip path).splitOn '.'
  if pieces.any (·.isEmpty) then [] else pieces

def isScriptPath (path : Text) : Bool :=
  path.startsWith "api."

/-- The markup keys of a path given by its lower-case parts. -/
def markupKeysOf : List Text → List Text
  | root :: category :: name :: rest =>
    if root = "css" then
      if category = "properties" then
        match rest with
        | [] => [name]
        | [value] => [name ++ "::" ++ value]
        | _ => []
      else if !rest.isEmpty then []
      else if category = "selectors" then [":" ++ name, "::" ++ name]
      else if category = "at-rules" then ["@" ++ name]
      else []
    else if root = "html" then
      if category = "elements" then
        match rest with
        | [] => [name]
        | [attr] => [name ++ "@" ++ attr]
        | [attr, value] => [name ++ "@" ++ attr ++ "::" ++ value]
        | _ => []
      else if category = "global_attributes" && rest.isEmpty then [name]
      else []
    else []
  | _ => []

def markupKeys (path : Text) : List Text :=
  markupKeysOf ((parts path).map Text.lower)

/-- The script keys of a path: as written in a program, then by interface. -/
def scriptKeys (path : Text) : List Text :=
  match parts path with
  | root :: interface :: members =>
    if root = "api" then
      if members.isEmpty then [interface]
      else
        let object := Text.lower (interface.take 1) ++ interface.drop 1
        [Text.join "." (object :: members), Text.join "." (interface :: members)]
    else []
  | _ => []

/-- A name as it can stand in the address of a property page. -/
def isPageName (name : Text) : Bool :=
  let body := match name with
    | '-' :: rest => rest
    | _ => name
  match body with
  | [] => false
  | c :: rest =>
    ('a' ≤ c && c ≤ 'z') &&
      rest.all fun d => ('a' ≤ d && d ≤ 'z') || Text.isDigit d || d == '-'

/-- The property that a path's documentation page is about, if the page is that of one CSS name. -/
def pageKey (path : Text) (url : Option Text) : Option Text :=
  if path.startsWith "css." then
    match url.bind (Text.cutAt? "/docs/Web/CSS/") with
    | none => none
    | some (_, tail) =>
      let slug : Text := (tail.takeWhile (· != '#')).takeWhile (· != '?')
      let name := slug.strip.lower
      if isPageName name then some name else none
  else none

/-- The page that probably documents the feature. -/
def guessedPage (path : Text) : Option Text :=
  match parts path with
  | root :: category :: more =>
    if root = "api" then
      some (docsBase ++ "/Web/API/" ++ Text.join "/" (category :: more.take 1))
    else match more with
      | [] => none
      | name :: _ =>
        if root = "css" then
          if category = "properties" then some (cssPage name)
          else if category = "selectors" then some (cssPage (":" ++ name))
          else if category = "at-rules" then some (cssPage ("@" ++ name))
          else none
        else if root = "html" then
          if category = "elements" then some (docsBase ++ "/Web/HTML/Element/" ++ name)
          else if category = "global_attributes" then
            some (docsBase ++ "/Web/HTML/Global_attributes/" ++ name)
          else none
        else none
  | _ => none

end WebBaseline.Feature
