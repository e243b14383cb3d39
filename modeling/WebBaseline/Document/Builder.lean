import WebBaseline.Document.Token
import WebBaseline.Document.Tree

/-!
The tree builder: the tree so far, the elements that are still open, and what else decides where the next
token goes. Text and elements go to the end of the current element, which is the one opened last; inside a
table, but outside its cells, they go before the table instead.
-/

namespace WebBaseline.Document

/-- What the builder expects, by the part of the document that it is in. -/
inductive Stage where
  | initial | beforePage | beforeHead | inHead | inHeadNoscript | afterHead | inBody | text
  | inTable | inTableText | inCaption | inColumnGroup | inTableBody | inRow | inCell
  | inSelect | inSelectInTable | inTemplate | afterBody | inFrameset | afterFrameset
  | afterAfterBody | afterAfterFrameset
deriving DecidableEq, Repr

structure Builder where
  tree : Tree := .empty
  /-- The open elements, the current one first. -/
  stack : List Nat := []
  /-- The open formatting elements, the last one first; gaps mark where a new list starts. -/
  formatting : List (Option Nat) := []
  stage : Stage := .initial
  /-- The stage to which a stretch of text returns. -/
  returnStage : Stage := .initial
  /-- The stages of the open templates, the innermost one first. -/
  templates : List Stage := []
  mode : Mode := .markup
  head : Option Nat := none
  form : Option Nat := none
  framesetAllowed : Bool := true
  /-- Whether the old layout rules hold. -/
  legacy : Bool := false
  /-- Whether nodes for the current table go before it. -/
  fostering : Bool := false
  /-- Whether a line feed is dropped if it comes next. -/
  dropsBreak : Bool := false
  /-- Text that stands directly in a table, its last character first. -/
  tableText : Text := []

def among (names : List String) (name : Text) : Bool :=
  names.any fun n => n.toList = name

namespace Builder

/-! ### Open elements -/

def element? (b : Builder) (id : Nat) : Option Element := b.tree.element? id

def current? (b : Builder) : Option Element :=
  b.stack.head?.bind b.element?

/-- Whether a node is an element of the page vocabulary with one of the names. -/
def isAny (b : Builder) (names : List String) (id : Nat) : Bool :=
  match b.element? id with
  | some e => e.vocabulary = .page && among names e.name
  | none => false

def currentIs (b : Builder) (names : List String) : Bool :=
  (b.stack.head?.map (b.isAny names)).getD false

/-- Whether an element with one of the names is open. -/
def hasOpen (b : Builder) (names : List String) : Bool :=
  b.stack.any (b.isAny names)

def pop (b : Builder) : Builder := { b with stack := b.stack.drop 1 }

/-- Closes elements up to and including the first one with one of the names. -/
def popThrough (b : Builder) (names : List String) : Builder :=
  { b with stack := (b.stack.dropWhile fun id => !b.isAny names id).drop 1 }

/-- Closes elements up to the first one with one of the names. -/
def popTo (b : Builder) (names : List String) : Builder :=
  { b with stack := b.stack.dropWhile fun id => !b.isAny names id }

/-! ### Scopes -/

/-- The elements in formulas and drawings that hold page content. -/
def isIntegration (e : Element) : Bool :=
  match e.vocabulary with
  | .page => false
  | .formula => among ["mi", "mo", "mn", "ms", "mtext", "annotation-xml"] e.name
  | .drawing => among ["foreignobject", "desc", "title"] e.name

/-- The elements that no scope reaches beyond. -/
def scopeEnds : List String :=
  ["applet", "caption", "html", "table", "td", "th", "marquee", "object", "template"]

/-- Whether an element with one of the names is open, with no element before it that ends the scope. -/
def reaches (b : Builder) (names : List String) (ends : Element → Bool) : Bool :=
  match b.stack.find? fun id => b.isAny names id || ((b.element? id).map ends).getD false with
  | some id => b.isAny names id
  | none => false

def endsScope (more : List String) (e : Element) : Bool :=
  isIntegration e || (e.vocabulary = .page && (among scopeEnds e.name || among more e.name))

def inScope (b : Builder) (names : List String) : Bool :=
  b.reaches names (endsScope [])

def inButtonScope (b : Builder) (names : List String) : Bool :=
  b.reaches names (endsScope ["button"])

def inListScope (b : Builder) (names : List String) : Bool :=
  b.reaches names (endsScope ["ol", "ul"])

def inTableScope (b : Builder) (names : List String) : Bool :=
  b.reaches names fun e => e.vocabulary = .page && among ["html", "table", "template"] e.name

def inSelectScope (b : Builder) (names : List String) : Bool :=
  b.reaches names fun e => !(e.vocabulary = .page && among ["optgroup", "option"] e.name)

def impliedNames : List String :=
  ["dd", "dt", "li", "optgroup", "option", "p", "rb", "rp", "rt", "rtc"]

/-- Closes elements whose closing tag may be left out, but those of the name `kept`. -/
def closeImplied (b : Builder) (kept : Text) : Builder :=
  { b with stack := b.stack.dropWhile fun id =>
      b.isAny impliedNames id && ((b.element? id).map (·.name)) != some kept }

/-- Closes the open paragraph, if one is in scope. -/
def closeParagraph (b : Builder) : Builder :=
  if b.inButtonScope ["p"] then (b.closeImplied "p").popThrough ["p"] else b

/-- The elements that end a search for the element of a closing tag. -/
def specialNames : List String := [
  "address", "applet", "area", "article", "aside", "base", "basefont", "bgsound", "blockquote", "body",
  "br", "button", "caption", "center", "col", "colgroup", "dd", "details", "dir", "div", "dl", "dt",
  "embed", "fieldset", "figcaption", "figure", "footer", "form", "frame", "frameset", "h1", "h2", "h3",
  "h4", "h5", "h6", "head", "header", "hgroup", "hr", "html", "iframe", "img", "input", "keygen", "li",
  "link", "listing", "main", "marquee", "menu", "meta", "nav", "noembed", "noframes", "noscript",
  "object", "ol", "p", "param", "plaintext", "pre", "script", "search", "section", "select", "source",
  "style", "summary", "table", "tbody", "td", "template", "textarea", "tfoot", "th", "thead", "title",
  "tr", "track", "ul", "wbr", "xmp"]

def isSpecial (b : Builder) (id : Nat) : Bool :=
  b.isAny specialNames id || ((b.element? id).map isIntegration).getD false

/-! ### Putting nodes in place -/

/-- The place for a node of a table that may not stand in the table: before it. -/
def fosterSpot (b : Builder) : Spot :=
  let upTo := b.stack.takeWhile fun id => !b.isAny ["table", "template"] id
  match b.stack.drop upTo.length with
  | [] => ⟨b.stack.getLast?.getD 0, none⟩
  | id :: older =>
    if b.isAny ["template"] id then ⟨id, none⟩
    else match (b.tree.get? id).bind (·.parent) with
      | some parent => ⟨parent, some id⟩
      | none => ⟨older.head?.getD 0, none⟩

/-- The place for the next node in an element. -/
def spotIn (b : Builder) (id : Nat) : Spot :=
  if b.fostering && b.isAny ["table", "tbody", "tfoot", "thead", "tr"] id then b.fosterSpot
  else ⟨id, none⟩

def spot (b : Builder) : Spot :=
  b.spotIn (b.stack.head?.getD 0)

def putChar (b : Builder) (c : Char) : Builder :=
  { b with tree := b.tree.putChar c b.spot }

def putComment (b : Builder) : Builder :=
  let (tree, id) := b.tree.add .comment
  { b with tree := tree.put id b.spot }

def openElement (b : Builder) (e : Element) : Builder :=
  let (tree, id) := b.tree.add (.element e)
  { b with tree := tree.put id b.spot, stack := id :: b.stack }

def openTag (b : Builder) (tag : Tag) : Builder :=
  b.openElement { name := tag.name, attributes := tag.attributes }

/-- Opens an element without attributes. -/
def openName (b : Builder) (name : String) : Builder :=
  b.openElement { name := name.toList }

/-- Puts the element of a tag in place; nothing goes into it. -/
def putTag (b : Builder) (tag : Tag) : Builder :=
  (b.openTag tag).pop

def noFrameset (b : Builder) : Builder := { b with framesetAllowed := false }

/-- Opens the element of a tag and reads its text in the given mode. -/
def openText (b : Builder) (tag : Tag) (mode : Mode) : Builder :=
  { b.openTag tag with mode, returnStage := b.stage, stage := .text }

/-! ### Formatting elements -/

/-- The formatting elements behind the last gap, the last one first. -/
def recentFormatting (b : Builder) : List Nat :=
  (b.formatting.takeWhile (·.isSome)).filterMap id

def asFormatting (b : Builder) : Builder :=
  { b with formatting := b.stack.head? :: b.formatting }

def markFormatting (b : Builder) : Builder :=
  { b with formatting := none :: b.formatting }

/-- Forgets the formatting elements behind the last gap, and the gap. -/
def clearFormatting (b : Builder) : Builder :=
  { b with formatting := (b.formatting.dropWhile (·.isSome)).drop 1 }

/-- Opens a copy of a formatting element and puts it in the place of the old one. -/
def reopen (b : Builder) (id : Nat) : Builder :=
  match b.element? id with
  | none => b
  | some e =>
    let opened := b.openElement e
    { opened with
      formatting := b.formatting.map fun f => if f = some id then opened.stack.head? else f }

/-- Opens again all formatting elements that were closed with the elements around them. -/
def reconstruct (b : Builder) : Builder :=
  let closed := b.recentFormatting.takeWhile fun id => !b.stack.contains id
  closed.reverse.foldl reopen b

/-- The steps for a closing tag that has no rule of its own: the element is closed, unless a special
element stands before it. -/
def closeOther (b : Builder) (name : Text) : Builder :=
  let isName := fun id =>
    ((b.element? id).map fun e => e.vocabulary = .page && e.name = name).getD false
  let newer := b.stack.takeWhile fun id => !isName id
  match b.stack.drop newer.length with
  | [] => b
  | _ :: older => if newer.any b.isSpecial then b else { b with stack := older }

/-- Inserts `id` into a list of formatting elements, newer than `mark`. -/
def insertedAfter (id mark : Nat) : List (Option Nat) → List (Option Nat)
  | [] => [some id]
  | f :: rest => if f = some mark then some id :: f :: rest else f :: insertedAfter id mark rest

/-- The middle part of `adopt`: the elements between the block and the formatting element are copied
around `last` if they are formatting elements, and closed if not. `count` is the number of elements met,
`kept` holds the copies that stay open. `mark` is the formatting element behind which the copy of the
adopted one goes. -/
def copyBetween (b : Builder) (count last : Nat) (mark : Option Nat) (kept : List Nat) :
    List Nat → Builder × Nat × Option Nat × List Nat
  | [] => (b, last, mark, kept.reverse)
  | id :: rest =>
    let b := if 3 ≤ count then { b with formatting := b.formatting.filter (· != some id) } else b
    if b.formatting.contains (some id) then
      match b.element? id with
      | none => copyBetween b (count + 1) last mark kept rest
      | some e =>
        let (tree, copy) := b.tree.add (.element e)
        let formatting := b.formatting.map fun f => if f = some id then some copy else f
        let b := { b with tree := tree.put last ⟨copy, none⟩, formatting }
        copyBetween b (count + 1) copy (mark <|> some copy) (copy :: kept) rest
    else copyBetween b (count + 1) last mark kept rest

/-- One round of closing the formatting element of the name: it is split around the first block that was
opened inside it, so that the block stays open. The flag says whether a further round may follow. -/
def adoptOnce (b : Builder) (name : Text) : Builder × Bool :=
  let isName := fun id => ((b.element? id).map fun e => decide (e.name = name)).getD false
  match b.recentFormatting.find? isName with
  | none => (b.closeOther name, false)
  | some fid =>
    let dropped := { b with formatting := b.formatting.filter (· != some fid) }
    let newer := b.stack.takeWhile (· != fid)
    match b.stack.drop newer.length with
    | [] => (dropped, false)
    | _ :: older =>
      let blocked := newer.any fun id => ((b.element? id).map (endsScope [])).getD false
      if blocked then (b, false)
      else
        match (newer.reverse.find? b.isSpecial), b.element? fid with
        | some block, some e =>
          let inside := newer.takeWhile (· != block)
          let between := newer.drop (inside.length + 1)
          let (b, last, mark, kept) := copyBetween b 0 block none [] between
          let ancestor := older.head?.getD 0
          let tree := b.tree.put last (b.spotIn ancestor)
          let (tree, copy) := tree.add (.element e)
          let tree := (tree.moveChildren block copy).put copy ⟨block, none⟩
          let formatting := match mark with
            | some m => insertedAfter copy m (b.formatting.filter (· != some fid))
            | none => b.formatting.map fun f => if f = some fid then some copy else f
          ({ b with tree, formatting, stack := inside ++ [copy, block] ++ kept ++ older }, true)
        | _, _ => ({ dropped with stack := older }, false)

/-- Closes a formatting element in up to `rounds` rounds. -/
def adoptRounds (name : Text) : (rounds : Nat) → Builder → Builder
  | 0, b => b
  | rounds + 1, b =>
    match b.adoptOnce name with
    | (b, true) => adoptRounds name rounds b
    | (b, false) => b

/-- Closes the formatting element of the name, wherever its closing tag stands. -/
def adopt (b : Builder) (name : Text) : Builder :=
  let isCurrent := (b.current?.map fun e => e.vocabulary = .page && e.name = name).getD false
  let isFormatting := (b.stack.head?.map fun id => b.formatting.contains (some id)).getD false
  if isCurrent && !isFormatting then b.pop else adoptRounds name 8 b

/-! ### Choosing the stage -/

/-- The stage that belongs to the open elements, from the current one on. -/
def stageFor (b : Builder) : List Nat → Stage
  | [] => .inBody
  | id :: older =>
    let is := fun names => b.isAny names id
    if is ["select"] then
      let tableFirst := (older.find? (b.isAny ["table", "template"])).map (b.isAny ["table"])
      if tableFirst.getD false then .inSelectInTable else .inSelect
    else if is ["td", "th"] && !older.isEmpty then .inCell
    else if is ["tr"] then .inRow
    else if is ["tbody", "thead", "tfoot"] then .inTableBody
    else if is ["caption"] then .inCaption
    else if is ["colgroup"] then .inColumnGroup
    else if is ["table"] then .inTable
    else if is ["template"] then b.templates.head?.getD .inBody
    else if is ["head"] && !older.isEmpty then .inHead
    else if is ["body"] then .inBody
    else if is ["frameset"] then .inFrameset
    else if is ["html"] then (if b.head.isNone then .beforeHead else .afterHead)
    else stageFor b older

def resetStage (b : Builder) : Builder :=
  { b with stage := b.stageFor b.stack }

end Builder

end WebBaseline.Document
