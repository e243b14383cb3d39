import WebBaseline.Text.Case

/-!
Paths of files. A path is a list of names between slashes; empty names and single dots say nothing and
are left out when a path is written.
-/

namespace WebBaseline.Path

/-- The names of a path, without the ones that say nothing. -/
def names (path : Text) : List Text :=
  (Text.splitOn '/' path).filter fun name => !name.isEmpty && name != "."

/-- The slashes at the front of a path that count: two stay two, more are one. -/
def root (path : Text) : Text :=
  match (path.takeWhile (· == '/')).length with
  | 0 => []
  | 2 => "//"
  | _ => "/"

/-- A path in its plain form. -/
def plain (path : Text) : Text :=
  let text := root path ++ Text.join "/" (names path)
  if text.isEmpty then "." else text

def withoutEnd (path : Text) : Text :=
  (path.reverse.dropWhile (· == '/')).reverse

/-- The ending of a file name, from its last dot on. A dot at either end of the name starts none. -/
def suffix (path : Text) : Text :=
  match (names path).getLast? with
  | none => []
  | some name =>
    let tail := (name.reverse.takeWhile (· != '.')).reverse
    if tail.isEmpty || name.length ≤ tail.length + 1 then [] else '.' :: tail

end WebBaseline.Path
