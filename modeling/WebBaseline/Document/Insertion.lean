import WebBaseline.Document.Builder

/-!
What each token does to the tree, by the stage of the builder. Many tokens end a stage and are then looked
at again in the next one; the number of such steps for one token is bounded, and the bound is given as
fuel.
-/

namespace WebBaseline.Document

namespace Builder

/-- The name of a tag token, if it is one of the names. -/
def isOpening (names : List String) : Token → Bool
  | .opening tag => among names tag.name
  | _ => false

def isClosing (names : List String) : Token → Bool
  | .closing name => among names name
  | _ => false

def headingNames : List String := ["h1", "h2", "h3", "h4", "h5", "h6"]

/-- The elements that start a block of their own. -/
def blockNames : List String := [
  "address", "article", "aside", "blockquote", "center", "details", "dialog", "dir", "div", "dl",
  "fieldset", "figcaption", "figure", "footer", "header", "hgroup", "main", "menu", "nav", "ol",
  "search", "section", "summary", "ul"]

def formattingNames : List String := [
  "b", "big", "code", "em", "font", "i", "s", "small", "strike", "strong", "tt", "u"]

/-- The elements that page content in formulas and drawings leads back to. -/
def breakoutNames : List String := [
  "b", "big", "blockquote", "body", "br", "center", "code", "dd", "div", "dl", "dt", "em", "embed", "h1",
  "h2", "h3", "h4", "h5", "h6", "head", "hr", "i", "img", "li", "listing", "menu", "meta", "nobr", "ol",
  "p", "pre", "ruby", "s", "small", "span", "strong", "strike", "sub", "sup", "table", "tt", "u", "ul",
  "var"]

/-- Closes open list items of the names, up to an element that holds lists. -/
def closeItem (names : List String) (b : Builder) : List Nat → Builder
  | [] => b
  | id :: older =>
    if b.isAny names id then
      let name := ((b.element? id).map (·.name)).getD []
      (b.closeImplied name).popThrough names
    else if b.isSpecial id && !b.isAny ["address", "div", "p"] id then b
    else closeItem names b older

/-- A place in a formula for page text. -/
def isTextPoint (e : Element) : Bool :=
  e.vocabulary = .formula && among ["mi", "mo", "mn", "ms", "mtext"] e.name

/-- A place in a formula or drawing for page content. -/
def isContentPoint (e : Element) : Bool :=
  match e.vocabulary with
  | .page => false
  | .drawing => among ["foreignobject", "desc", "title"] e.name
  | .formula =>
    e.name = "annotation-xml" &&
      (((e.attributes.lookup "encoding".toList).map fun v =>
        among ["text/html", "application/xhtml+xml"] (Text.asciiLower v)).getD false)

/-- Whether a token is looked at by the rules for formulas and drawings. -/
def isForeign (b : Builder) (token : Token) : Bool :=
  match b.current?, token with
  | none, _ => false
  | some _, .stop => false
  | some e, .char _ => !(e.vocabulary = .page || isTextPoint e || isContentPoint e)
  | some e, .opening tag =>
    !(e.vocabulary = .page || (isTextPoint e && !among ["mglyph", "malignmark"] tag.name) ||
      isContentPoint e || (e.vocabulary = .formula && e.name = "annotation-xml" && tag.name = "svg"))
  | some e, _ => e.vocabulary != .page

def closeCell (b : Builder) : Builder :=
  let b := ((b.closeImplied []).popThrough ["td", "th"]).clearFormatting
  { b with stage := .inRow }

def openForeign (b : Builder) (tag : Tag) (vocabulary : Vocabulary) : Builder :=
  let b := b.openElement { name := tag.name, vocabulary, attributes := tag.attributes }
  if tag.closesItself then b.pop else b

def closeTemplate (b : Builder) : Builder :=
  if b.hasOpen ["template"] then
    let b := ((b.closeImplied []).popThrough ["template"]).clearFormatting
    { b with templates := b.templates.drop 1 }.resetStage
  else b

def goTo (b : Builder) (stage : Stage) : Builder := { b with stage }

mutual

/-- Looks at a token. -/
def process : (fuel : Nat) → Token → Builder → Builder
  | 0, _, b => b
  | fuel + 1, token, b =>
    if b.isForeign token then foreign fuel token b else inStage fuel token b.stage b

/-- Looks at a token by the rules of a stage. -/
def inStage : (fuel : Nat) → Token → Stage → Builder → Builder
  | 0, _, _, b => b
  | fuel + 1, token, stage, b =>
    match stage with
    | .initial =>
      match token with
      | .char c =>
        if isSpace c then b else process fuel token { b with legacy := true, stage := .beforePage }
      | .comment => b.putComment
      | .doctype legacy => { b with legacy, stage := .beforePage }
      | _ => process fuel token { b with legacy := true, stage := .beforePage }
    | .beforePage =>
      match token with
      | .doctype _ => b
      | .comment => b.putComment
      | .char c =>
        if isSpace c then b else process fuel token ((b.openName "html").goTo .beforeHead)
      | .opening tag =>
        if tag.name = "html" then (b.openTag tag).goTo .beforeHead
        else process fuel token ((b.openName "html").goTo .beforeHead)
      | .closing name =>
        if among ["head", "body", "html", "br"] name then
          process fuel token ((b.openName "html").goTo .beforeHead)
        else b
      | .stop => process fuel token ((b.openName "html").goTo .beforeHead)
    | .beforeHead =>
      let go := fun (b : Builder) =>
        let b := b.openName "head"
        process fuel token { b with head := b.stack.head?, stage := .inHead }
      match token with
      | .doctype _ => b
      | .comment => b.putComment
      | .char c => if isSpace c then b else go b
      | .opening tag =>
        if tag.name = "html" then b
        else if tag.name = "head" then
          let b := b.openTag tag
          { b with head := b.stack.head?, stage := .inHead }
        else go b
      | .closing name => if among ["head", "body", "html", "br"] name then go b else b
      | .stop => go b
    | .inHead => inHead fuel token b
    | .inHeadNoscript =>
      let go := fun (b : Builder) => process fuel token (b.pop.goTo .inHead)
      match token with
      | .doctype _ => b
      | .comment => inHead fuel token b
      | .char c => if isSpace c then inHead fuel token b else go b
      | .opening tag =>
        if among ["basefont", "bgsound", "link", "meta", "noframes", "style"] tag.name then
          inHead fuel token b
        else if among ["html", "head", "noscript"] tag.name then b
        else go b
      | .closing name =>
        if name = "noscript" then b.pop.goTo .inHead else if name = "br" then go b else b
      | .stop => go b
    | .afterHead =>
      let go := fun (b : Builder) => process fuel token ((b.openName "body").goTo .inBody)
      match token with
      | .doctype _ => b
      | .comment => b.putComment
      | .char c => if isSpace c then b.putChar c else go b
      | .opening tag =>
        if tag.name = "html" then b
        else if tag.name = "body" then ((b.openTag tag).noFrameset).goTo .inBody
        else if tag.name = "frameset" then (b.openTag tag).goTo .inFrameset
        else if among ["base", "basefont", "bgsound", "link", "meta", "noframes", "script", "style",
            "template", "title"] tag.name then
          match b.head with
          | none => b
          | some head =>
            let b := inHead fuel token { b with stack := head :: b.stack }
            { b with stack := b.stack.filter (· != head) }
        else if tag.name = "head" then b
        else go b
      | .closing name =>
        if name = "template" then b.closeTemplate
        else if among ["body", "html", "br"] name then go b else b
      | .stop => go b
    | .inBody => inBody fuel token b
    | .text =>
      match token with
      | .char c => b.putChar c
      | .stop => process fuel token { b.pop with stage := b.returnStage, mode := .markup }
      | .closing _ => { b.pop with stage := b.returnStage, mode := .markup }
      | _ => b
    | .inTable => inTable fuel token b
    | .inTableText =>
      match token with
      | .char c => if c.toNat = 0 then b else { b with tableText := c :: b.tableText }
      | _ =>
        let text := b.tableText.reverse
        let b := { b with tableText := [], stage := b.returnStage }
        let b :=
          if text.all isSpace then text.foldl putChar b
          else
            let b := text.foldl (fun b c => inBody fuel (.char c) b) { b with fostering := true }
            { b with fostering := false }
        process fuel token b
    | .inCaption =>
      let close := fun (b : Builder) =>
        ((b.closeImplied []).popThrough ["caption"]).clearFormatting.goTo .inTable
      if isClosing ["caption"] token then
        if b.inTableScope ["caption"] then close b else b
      else if isOpening ["caption", "col", "colgroup", "tbody", "td", "tfoot", "th", "thead", "tr"] token
          || isClosing ["table"] token then
        if b.inTableScope ["caption"] then process fuel token (close b) else b
      else if isClosing ["body", "col", "colgroup", "html", "tbody", "td", "tfoot", "th", "thead", "tr"]
          token then b
      else inBody fuel token b
    | .inColumnGroup =>
      let go := fun (b : Builder) =>
        if b.currentIs ["colgroup"] then process fuel token (b.pop.goTo .inTable) else b
      match token with
      | .char c => if isSpace c then b.putChar c else go b
      | .comment => b.putComment
      | .doctype _ => b
      | .opening tag =>
        if tag.name = "html" then b
        else if tag.name = "col" then b.putTag tag
        else if tag.name = "template" then inHead fuel token b
        else go b
      | .closing name =>
        if name = "colgroup" then
          if b.currentIs ["colgroup"] then b.pop.goTo .inTable else b
        else if name = "col" then b
        else if name = "template" then b.closeTemplate
        else go b
      | .stop => inBody fuel token b
    | .inTableBody =>
      let toBody := fun (b : Builder) => b.popTo ["tbody", "tfoot", "thead", "template", "html"]
      if isOpening ["tr"] token then
        match token with
        | .opening tag => ((toBody b).openTag tag).goTo .inRow
        | _ => b
      else if isOpening ["th", "td"] token then
        process fuel token (((toBody b).openName "tr").goTo .inRow)
      else if isClosing ["tbody", "tfoot", "thead"] token then
        match token with
        | .closing name =>
          if b.inTableScope [String.ofList name] then (toBody b).pop.goTo .inTable else b
        | _ => b
      else if isOpening ["caption", "col", "colgroup", "tbody", "tfoot", "thead"] token ||
          isClosing ["table"] token then
        if b.inTableScope ["tbody", "thead", "tfoot"] then
          process fuel token ((toBody b).pop.goTo .inTable)
        else b
      else if isClosing ["body", "caption", "col", "colgroup", "html", "td", "th", "tr"] token then b
      else inTable fuel token b
    | .inRow =>
      let toRow := fun (b : Builder) => b.popTo ["tr", "template", "html"]
      if isOpening ["th", "td"] token then
        match token with
        | .opening tag => ((toRow b).openTag tag).markFormatting.goTo .inCell
        | _ => b
      else if isClosing ["tr"] token then
        if b.inTableScope ["tr"] then (toRow b).pop.goTo .inTableBody else b
      else if isOpening ["caption", "col", "colgroup", "tbody", "tfoot", "thead", "tr"] token ||
          isClosing ["table"] token then
        if b.inTableScope ["tr"] then process fuel token ((toRow b).pop.goTo .inTableBody) else b
      else if isClosing ["tbody", "tfoot", "thead"] token then
        match token with
        | .closing name =>
          if b.inTableScope [String.ofList name] && b.inTableScope ["tr"] then
            process fuel token ((toRow b).pop.goTo .inTableBody)
          else b
        | _ => b
      else if isClosing ["body", "caption", "col", "colgroup", "html", "td", "th"] token then b
      else inTable fuel token b
    | .inCell =>
      if isClosing ["td", "th"] token then
        match token with
        | .closing name =>
          let name := String.ofList name
          if b.inTableScope [name] then
            ((b.closeImplied []).popThrough [name]).clearFormatting.goTo .inRow
          else b
        | _ => b
      else if isOpening ["caption", "col", "colgroup", "tbody", "td", "tfoot", "th", "thead", "tr"] token
          then
        if b.inTableScope ["td", "th"] then process fuel token b.closeCell else b
      else if isClosing ["body", "caption", "col", "colgroup", "html"] token then b
      else if isClosing ["table", "tbody", "tfoot", "thead", "tr"] token then
        match token with
        | .closing name =>
          if b.inTableScope [String.ofList name] then process fuel token b.closeCell else b
        | _ => b
      else inBody fuel token b
    | .inSelect => inSelect fuel token b
    | .inSelectInTable =>
      let names := ["caption", "table", "tbody", "tfoot", "thead", "tr", "td", "th"]
      if isOpening names token then process fuel token (b.popThrough ["select"]).resetStage
      else if isClosing names token then
        match token with
        | .closing name =>
          if b.inTableScope [String.ofList name] then
            process fuel token (b.popThrough ["select"]).resetStage
          else b
        | _ => b
      else inSelect fuel token b
    | .inTemplate =>
      let go := fun (stage : Stage) =>
        process fuel token { b with templates := stage :: b.templates.drop 1, stage }
      match token with
      | .char _ => inBody fuel token b
      | .comment => inBody fuel token b
      | .doctype _ => b
      | .opening tag =>
        if among ["base", "basefont", "bgsound", "link", "meta", "noframes", "script", "style",
            "template", "title"] tag.name then inHead fuel token b
        else if among ["caption", "colgroup", "tbody", "tfoot", "thead"] tag.name then go .inTable
        else if tag.name = "col" then go .inColumnGroup
        else if tag.name = "tr" then go .inTableBody
        else if among ["td", "th"] tag.name then go .inRow
        else go .inBody
      | .closing name => if name = "template" then b.closeTemplate else b
      | .stop =>
        if b.hasOpen ["template"] then
          let b := (b.popThrough ["template"]).clearFormatting
          process fuel token { b with templates := b.templates.drop 1 }.resetStage
        else b
    | .afterBody =>
      match token with
      | .char c => if isSpace c then inBody fuel token b else process fuel token (b.goTo .inBody)
      | .comment =>
        let (tree, id) := b.tree.add .comment
        { b with tree := tree.put id ⟨b.stack.getLast?.getD 0, none⟩ }
      | .doctype _ => b
      | .opening tag => if tag.name = "html" then b else process fuel token (b.goTo .inBody)
      | .closing name =>
        if name = "html" then b.goTo .afterAfterBody else process fuel token (b.goTo .inBody)
      | .stop => b
    | .inFrameset =>
      match token with
      | .char c => if isSpace c then b.putChar c else b
      | .comment => b.putComment
      | .opening tag =>
        if tag.name = "frameset" then b.openTag tag
        else if tag.name = "frame" then b.putTag tag
        else if tag.name = "noframes" then inHead fuel token b
        else b
      | .closing name =>
        if name = "frameset" && 1 < b.stack.length then
          let b := b.pop
          if b.currentIs ["frameset"] then b else b.goTo .afterFrameset
        else b
      | _ => b
    | .afterFrameset =>
      match token with
      | .char c => if isSpace c then b.putChar c else b
      | .comment => b.putComment
      | .opening tag => if tag.name = "noframes" then inHead fuel token b else b
      | .closing name => if name = "html" then b.goTo .afterAfterFrameset else b
      | _ => b
    | .afterAfterBody =>
      match token with
      | .comment =>
        let (tree, id) := b.tree.add .comment
        { b with tree := tree.put id ⟨0, none⟩ }
      | .doctype _ => b
      | .char c => if isSpace c then inBody fuel token b else process fuel token (b.goTo .inBody)
      | .opening tag => if tag.name = "html" then b else process fuel token (b.goTo .inBody)
      | .stop => b
      | .closing _ => process fuel token (b.goTo .inBody)
    | .afterAfterFrameset =>
      match token with
      | .char c => if isSpace c then inBody fuel token b else b
      | .opening tag => if tag.name = "noframes" then inHead fuel token b else b
      | _ => b

def inHead : (fuel : Nat) → Token → Builder → Builder
  | 0, _, b => b
  | fuel + 1, token, b =>
    let go := fun (b : Builder) => process fuel token (b.pop.goTo .afterHead)
    match token with
    | .char c => if isSpace c then b.putChar c else go b
    | .comment => b.putComment
    | .doctype _ => b
    | .opening tag =>
      if tag.name = "html" then b
      else if among ["base", "basefont", "bgsound", "link", "meta"] tag.name then b.putTag tag
      else if tag.name = "title" then b.openText tag (.plain "title")
      else if among ["noframes", "style"] tag.name then b.openText tag (.raw tag.name)
      else if tag.name = "noscript" then (b.openTag tag).goTo .inHeadNoscript
      else if tag.name = "script" then b.openText tag .script
      else if tag.name = "template" then
        let b := ((b.openTag tag).markFormatting).noFrameset
        { b with stage := .inTemplate, templates := .inTemplate :: b.templates }
      else if tag.name = "head" then b
      else go b
    | .closing name =>
      if name = "head" then b.pop.goTo .afterHead
      else if among ["body", "html", "br"] name then go b
      else if name = "template" then b.closeTemplate
      else b
    | .stop => go b

def inBody : (fuel : Nat) → Token → Builder → Builder
  | 0, _, b => b
  | fuel + 1, token, b =>
    match token with
    | .char c =>
      if c.toNat = 0 then b
      else
        let b := b.reconstruct.putChar c
        if isSpace c then b else b.noFrameset
    | .comment => b.putComment
    | .doctype _ => b
    | .stop => if b.templates.isEmpty then b else inStage fuel token .inTemplate b
    | .opening tag =>
      let is := fun names => among names tag.name
      if is ["html"] then b
      else if is ["base", "basefont", "bgsound", "link", "meta", "noframes", "script", "style",
          "template", "title"] then inHead fuel token b
      else if is ["body"] then (if b.hasOpen ["template"] then b else b.noFrameset)
      else if is ["frameset"] then
        match b.stack.reverse with
        | page :: body :: _ =>
          if b.isAny ["body"] body && b.framesetAllowed then
            ({ b with tree := b.tree.detach body, stack := [page] }.openTag tag).goTo .inFrameset
          else b
        | _ => b
      else if is ("p" :: blockNames) then b.closeParagraph.openTag tag
      else if is headingNames then
        let b := b.closeParagraph
        (if b.currentIs headingNames then b.pop else b).openTag tag
      else if is ["pre", "listing"] then
        { (b.closeParagraph.openTag tag).noFrameset with dropsBreak := true }
      else if is ["form"] then
        if b.form.isSome && !b.hasOpen ["template"] then b
        else
          let b := b.closeParagraph.openTag tag
          if b.hasOpen ["template"] then b else { b with form := b.stack.head? }
      else if is ["li"] then
        let b := b.noFrameset
        (closeItem ["li"] b b.stack).closeParagraph.openTag tag
      else if is ["dd", "dt"] then
        let b := b.noFrameset
        (closeItem ["dd", "dt"] b b.stack).closeParagraph.openTag tag
      else if is ["plaintext"] then { b.closeParagraph.openTag tag with mode := .all }
      else if is ["button"] then
        let b := if b.inScope ["button"] then (b.closeImplied []).popThrough ["button"] else b
        (b.reconstruct.openTag tag).noFrameset
      else if is ["a"] then
        let isLink := fun id => b.isAny ["a"] id
        let b := match b.recentFormatting.find? isLink with
          | none => b
          | some id =>
            let b := b.adopt tag.name
            { b with
              formatting := b.formatting.filter (· != some id), stack := b.stack.filter (· != id) }
        (b.reconstruct.openTag tag).asFormatting
      else if is formattingNames then (b.reconstruct.openTag tag).asFormatting
      else if is ["nobr"] then
        let b := b.reconstruct
        let b := if b.inScope ["nobr"] then (b.adopt tag.name).reconstruct else b
        (b.openTag tag).asFormatting
      else if is ["applet", "marquee", "object"] then
        ((b.reconstruct.openTag tag).markFormatting).noFrameset
      else if is ["table"] then
        let b := if b.legacy then b else b.closeParagraph
        ((b.openTag tag).noFrameset).goTo .inTable
      else if is ["area", "br", "embed", "img", "keygen", "wbr"] then
        (b.reconstruct.putTag tag).noFrameset
      else if is ["input"] then
        let hidden := ((tag.attributes.lookup "type".toList).map Text.asciiLower) = some "hidden".toList
        let b := b.reconstruct.putTag tag
        if hidden then b else b.noFrameset
      else if is ["param", "source", "track"] then b.putTag tag
      else if is ["hr"] then (b.closeParagraph.putTag tag).noFrameset
      else if is ["image"] then process fuel (.opening { tag with name := "img" }) b
      else if is ["textarea"] then
        { (b.openText tag (.plain "textarea")).noFrameset with dropsBreak := true }
      else if is ["xmp"] then ((b.closeParagraph.reconstruct).openText tag (.raw tag.name)).noFrameset
      else if is ["iframe"] then (b.openText tag (.raw tag.name)).noFrameset
      else if is ["noembed"] then b.openText tag (.raw tag.name)
      else if is ["select"] then
        let inner := [Stage.inTable, .inCaption, .inTableBody, .inRow, .inCell].contains b.stage
        ((b.reconstruct.openTag tag).noFrameset).goTo (if inner then .inSelectInTable else .inSelect)
      else if is ["optgroup", "option"] then
        let b := if b.currentIs ["option"] then b.pop else b
        b.reconstruct.openTag tag
      else if is ["rb", "rtc"] then
        (if b.inScope ["ruby"] then b.closeImplied [] else b).openTag tag
      else if is ["rp", "rt"] then
        (if b.inScope ["ruby"] then b.closeImplied "rtc" else b).openTag tag
      else if is ["math"] then b.reconstruct.openForeign tag .formula
      else if is ["svg"] then b.reconstruct.openForeign tag .drawing
      else if is ["caption", "col", "colgroup", "frame", "head", "tbody", "td", "tfoot", "th", "thead",
          "tr"] then b
      else b.reconstruct.openTag tag
    | .closing name =>
      let is := fun names => among names name
      let own := String.ofList name
      if is ["template"] then b.closeTemplate
      else if is ["body"] then (if b.inScope ["body"] then b.goTo .afterBody else b)
      else if is ["html"] then
        if b.inScope ["body"] then process fuel token (b.goTo .afterBody) else b
      else if is (["button", "listing", "pre"] ++ blockNames) then
        if b.inScope [own] then (b.closeImplied []).popThrough [own] else b
      else if is ["form"] then
        if b.hasOpen ["template"] then
          if b.inScope ["form"] then (b.closeImplied []).popThrough ["form"] else b
        else
          match b.form with
          | none => b
          | some id =>
            let cleared := { b with form := none }
            if b.inScope ["form"] && b.stack.contains id then
              let b := cleared.closeImplied []
              { b with stack := b.stack.filter (· != id) }
            else cleared
      else if is ["p"] then
        (if b.inButtonScope ["p"] then b else b.openName "p").closeParagraph
      else if is ["li"] then
        if b.inListScope ["li"] then (b.closeImplied name).popThrough ["li"] else b
      else if is ["dd", "dt"] then
        if b.inScope [own] then (b.closeImplied name).popThrough [own] else b
      else if is headingNames then
        if b.inScope headingNames then (b.closeImplied []).popThrough headingNames else b
      else if is (["a", "nobr"] ++ formattingNames) then b.adopt name
      else if is ["applet", "marquee", "object"] then
        if b.inScope [own] then ((b.closeImplied []).popThrough [own]).clearFormatting else b
      else if is ["br"] then process fuel (.opening { name }) b
      else b.closeOther name

def inTable : (fuel : Nat) → Token → Builder → Builder
  | 0, _, b => b
  | fuel + 1, token, b =>
    let toTable := fun (b : Builder) => b.popTo ["table", "template", "html"]
    let foster := fun (b : Builder) =>
      { inBody fuel token { b with fostering := true } with fostering := false }
    match token with
    | .char _ =>
      if b.currentIs ["table", "tbody", "template", "tfoot", "thead", "tr"] then
        process fuel token { b with tableText := [], returnStage := b.stage, stage := .inTableText }
      else foster b
    | .comment => b.putComment
    | .doctype _ => b
    | .stop => inBody fuel token b
    | .opening tag =>
      let is := fun names => among names tag.name
      if is ["caption"] then (((toTable b).markFormatting).openTag tag).goTo .inCaption
      else if is ["colgroup"] then ((toTable b).openTag tag).goTo .inColumnGroup
      else if is ["col"] then
        process fuel token (((toTable b).openName "colgroup").goTo .inColumnGroup)
      else if is ["tbody", "tfoot", "thead"] then ((toTable b).openTag tag).goTo .inTableBody
      else if is ["td", "th", "tr"] then
        process fuel token (((toTable b).openName "tbody").goTo .inTableBody)
      else if is ["table"] then
        if b.inTableScope ["table"] then process fuel token (b.popThrough ["table"]).resetStage else b
      else if is ["style", "script", "template"] then inHead fuel token b
      else if is ["input"] then
        let kind := (tag.attributes.lookup "type".toList).map Text.asciiLower
        if kind = some "hidden".toList then b.putTag tag else foster b
      else if is ["form"] then
        if b.hasOpen ["template"] || b.form.isSome then b
        else
          let opened := b.openTag tag
          { opened with form := opened.stack.head? }.pop
      else foster b
    | .closing name =>
      if name = "table" then
        if b.inTableScope ["table"] then (b.popThrough ["table"]).resetStage else b
      else if among ["body", "caption", "col", "colgroup", "html", "tbody", "td", "tfoot", "th", "thead",
          "tr"] name then b
      else if name = "template" then b.closeTemplate
      else foster b

/-- The rules for lists of options. -/
def inSelect : (fuel : Nat) → Token → Builder → Builder
  | 0, _, b => b
  | fuel + 1, token, b =>
    match token with
    | .char c => if c.toNat = 0 then b else b.putChar c
    | .comment => b.putComment
    | .doctype _ => b
    | .stop => inBody fuel token b
    | .opening tag =>
      let is := fun names => among names tag.name
      let noOption := fun (b : Builder) => if b.currentIs ["option"] then b.pop else b
      let noGroup := fun (b : Builder) => if b.currentIs ["optgroup"] then b.pop else b
      if is ["html"] then b
      else if is ["option"] then (noOption b).openTag tag
      else if is ["optgroup"] then (noGroup (noOption b)).openTag tag
      else if is ["hr"] then (noGroup (noOption b)).putTag tag
      else if is ["select"] then
        if b.inSelectScope ["select"] then (b.popThrough ["select"]).resetStage else b
      else if is ["input", "keygen", "textarea"] then
        if b.inSelectScope ["select"] then process fuel token (b.popThrough ["select"]).resetStage
        else b
      else if is ["script", "template"] then inHead fuel token b
      else b
    | .closing name =>
      let is := fun names => among names name
      if is ["optgroup"] then
        let isGroup := (b.stack.drop 1).head?.map (b.isAny ["optgroup"])
        let b := if b.currentIs ["option"] && isGroup = some true then b.pop else b
        if b.currentIs ["optgroup"] then b.pop else b
      else if is ["option"] then (if b.currentIs ["option"] then b.pop else b)
      else if is ["select"] then
        if b.inSelectScope ["select"] then (b.popThrough ["select"]).resetStage else b
      else if is ["template"] then b.closeTemplate
      else b

/-- The rules for formulas and drawings. -/
def foreign : (fuel : Nat) → Token → Builder → Builder
  | 0, _, b => b
  | fuel + 1, token, b =>
    let isPage := fun (id : Nat) => ((b.element? id).map fun e => decide (e.vocabulary = .page)).getD true
    let breakOut := fun (b : Builder) =>
      let isHome := fun id => isPage id ||
        ((b.element? id).map fun e => isTextPoint e || isContentPoint e).getD true
      let b := { b with stack := b.stack.dropWhile fun id => !isHome id }
      inStage fuel token b.stage b
    match token with
    | .char c =>
      let b := b.putChar (if c.toNat = 0 then replacement else c)
      if isSpace c then b else b.noFrameset
    | .comment => b.putComment
    | .doctype _ => b
    | .stop => b
    | .opening tag =>
      let styled := tag.name = "font" &&
        ["color", "face", "size"].any fun a => (tag.attributes.lookup a.toList).isSome
      if among breakoutNames tag.name || styled then breakOut b
      else
        let vocabulary := (b.current?.map (·.vocabulary)).getD .page
        b.openForeign tag vocabulary
    | .closing name =>
      if among ["br", "p"] name then breakOut b
      else
        let isName := fun id => ((b.element? id).map fun e => decide (e.name = name)).getD false
        let newer := b.stack.takeWhile fun id => !isName id && !isPage id
        match b.stack.drop newer.length with
        | [] => b
        | id :: older => if isPage id then inStage fuel token b.stage b else { b with stack := older }

end

end Builder

end WebBaseline.Document
