import WebBaseline.Number.Double

/-!
JSON values. An object keeps its members in the order in which their names first appear; a name that
is given again replaces the value and keeps the place.
-/

namespace WebBaseline

/-- A JSON value. Whole numbers of any size are kept apart from those with a fraction or exponent. -/
inductive Json where
  | null
  | bool (b : Bool)
  | int (n : Int)
  | real (x : Double)
  | str (s : Text)
  | arr (items : List Json)
  | obj (members : List (Text × Json))

namespace Json

def lookup (name : Text) : List (Text × Json) → Option Json
  | [] => none
  | (key, value) :: rest => if key = name then some value else lookup name rest

/-- Puts `value` under `name`: in the place of an earlier value, or at the end. -/
def put (name : Text) (value : Json) : List (Text × Json) → List (Text × Json)
  | [] => [(name, value)]
  | (key, old) :: rest =>
    if key = name then (key, value) :: rest else (key, old) :: put name value rest

/-- The members of an object; no other value has any. -/
def members? : Json → Option (List (Text × Json))
  | .obj members => some members
  | _ => none

def get? (j : Json) (name : Text) : Option Json :=
  j.members?.bind (lookup name)

def str? : Json → Option Text
  | .str s => some s
  | _ => none

def isObject (j : Json) : Bool :=
  j.members?.isSome

end Json

end WebBaseline
