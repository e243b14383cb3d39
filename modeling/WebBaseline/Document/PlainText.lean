import WebBaseline.Document.Insertion
import WebBaseline.Text.Line

/-!
The plain text of a document: its texts in document order, with single spaces between and within them.
-/

namespace WebBaseline.Document

namespace Builder

/-- Looks at one token in full. A line feed right behind some opening tags is dropped. -/
def step (b : Builder) (token : Token) : Builder :=
  let drops := b.dropsBreak
  let b := { b with dropsBreak := false }
  if drops && token = .char '\n' then b else process (4 * b.stack.length + 100) token b

/-- Whether character data sections count here. -/
def inForeign (b : Builder) : Bool :=
  (b.current?.map fun e => decide (e.vocabulary ≠ .page)).getD false

def feed (b : Builder) (s : Text) : Builder :=
  if s.isEmpty then b
  else
    let read := next b.mode b.inForeign s
    let b := read.1.foldl step b
    if read.2.length < s.length then feed b read.2 else b
termination_by s.length

end Builder

def tree (s : Text) : Tree :=
  ((({} : Builder).feed (Text.unifyBreaks s)).step .stop).tree

/-- What a node says, on one line; a node that cannot say anything has no text. -/
def nodeText (said : Option Text) : Text :=
  Text.collapse (said.getD [])

def plainText (s : Text) : Text :=
  if (Text.strip s).isEmpty then [] else nodeText (some (Text.join " " (tree s).texts))

end WebBaseline.Document
