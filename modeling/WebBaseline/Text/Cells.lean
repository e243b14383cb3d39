import WebBaseline.Text.CellTable

/-!
The cells that a text takes on a terminal. A character takes none, one or two. A joiner hides the
character behind it, and an emoji selector widens the character before it if there is a wide form. A
cluster is a character that takes cells together with all that hangs on it.
-/

namespace WebBaseline.Text

/-- Control characters that would move the cursor; they are never shown. -/
def movesCursor (c : Char) : Bool :=
  c = '\x07' || c = '\x08' || c = '\x0b' || c = '\x0c' || c = '\r'

def cleaned (s : Text) : Text :=
  s.filter fun c => !movesCursor c

def charCells (c : Char) : Nat :=
  let n := c.toNat
  if n < 32 || (0x7F ≤ n && n < 0xA0) then 0
  else if Ranges.contains zeroCellRanges n then 0
  else if Ranges.contains wideCellRanges n then 2
  else 1

/-- The character that joins its neighbours to one. -/
def joiner : Char := '\u200d'

/-- The character that asks for the emoji form of the one before it. -/
def emojiSelector : Char := '\ufe0f'

/-- The cells that an emoji selector adds to the character before it. -/
def widening : Option Char → Nat
  | none => 0
  | some c => if Ranges.contains widenedRanges c.toNat then 1 else 0

/-- The cells of a text behind the character `last`; its first character takes none if it is hidden. -/
def cellsFrom (hidden : Bool) (last : Option Char) : Text → Nat
  | [] => 0
  | c :: s =>
    if hidden then cellsFrom false last s
    else if c = joiner then cellsFrom true last s
    else if c = emojiSelector then widening last + cellsFrom false none s
    else if charCells c = 0 then cellsFrom false last s
    else charCells c + cellsFrom false (some c) s

def cells (s : Text) : Nat :=
  cellsFrom false none s

/-- Characters that are shown together, and the cells they take. -/
structure Cluster where
  chars : Text
  cells : Nat
deriving DecidableEq, Repr

/-- The clusters with a character and its cells added to the last one; a first one starts a cluster. -/
def extendLast (c : Char) (n : Nat) : (reversed : List Cluster) → List Cluster
  | [] => [⟨[c], 0⟩]
  | k :: rest => ⟨k.chars ++ [c], k.cells + n⟩ :: rest

/-- The clusters of a text behind the reversed clusters `before`. -/
def clustersFrom (before : List Cluster) (hidden : Bool) (last : Option Char) : Text → List Cluster
  | [] => before.reverse
  | c :: s =>
    if hidden then clustersFrom (extendLast c 0 before) false last s
    else if c = joiner then clustersFrom (extendLast c 0 before) (!before.isEmpty) last s
    else if c = emojiSelector then
      if widening last = 0 then clustersFrom (extendLast c 0 before) false last s
      else clustersFrom (extendLast c 1 before) false none s
    else if charCells c = 0 then clustersFrom (extendLast c 0 before) false last s
    else clustersFrom (⟨[c], charCells c⟩ :: before) false (some c) s

def clusters (s : Text) : List Cluster :=
  clustersFrom [] false none s

/-- The first `width` cells of clusters; half of a wide one is a space. -/
def takeCells : (width : Nat) → List Cluster → Text
  | 0, _ => []
  | _, [] => []
  | width, k :: rest =>
    if k.cells ≤ width then k.chars ++ takeCells (width - k.cells) rest else [' ']

def cutCells (width : Nat) (s : Text) : Text :=
  if cells s ≤ width then s else takeCells width (clusters s)

/-- A text with spaces behind it, up to `width` cells. -/
def padCells (width : Nat) (s : Text) : Text :=
  s ++ List.replicate (width - cells s) ' '

/-- Folds clusters to pieces of at most `width` cells, behind the piece `piece` of `size` cells. What takes
no cells at the end is left out. -/
def foldClusters (width : Nat) (piece : Text) (size : Nat) : List Cluster → List Text
  | [] => if size = 0 then [] else [piece]
  | k :: rest =>
    if width < size + k.cells then piece :: foldClusters width k.chars k.cells rest
    else foldClusters width (piece ++ k.chars) (size + k.cells) rest

def foldCells (width : Nat) (s : Text) : List Text :=
  foldClusters width [] 0 (clusters s)

def tabStop : Nat := 8

/-- The parts of a text between tabs, joined with spaces up to the next stops. -/
def joinAtStops (column : Nat) : List Text → Text
  | [] => []
  | [part] => part
  | part :: rest =>
    let part := part ++ " "
    let reached := column + cells part
    let gap := (tabStop - reached % tabStop) % tabStop
    part ++ List.replicate gap ' ' ++ joinAtStops (reached + gap) rest

def expandTabs (s : Text) : Text :=
  joinAtStops 0 (splitOn '\t' s)

end WebBaseline.Text
