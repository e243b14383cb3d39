import WebBaseline.CommandLine.Usage
import WebBaseline.Files
import WebBaseline.Text.Integer

/-!
The switches of a command, and how its arguments are divided into switches and the rest. A long name stands
behind two hyphens and may carry a value behind an equals sign. A short name is one letter, and several of
them may stand behind one hyphen. Behind two hyphens alone there are no switches.
-/

namespace WebBaseline.CommandLine

/-- What a switch takes as its value. -/
inductive Kind where
  /-- No value. -/
  | flag
  /-- Any text; the placeholder stands for it in the help. -/
  | text (placeholder : Text)
  /-- An integer that is not negative. -/
  | count
  /-- The path of a file that exists. -/
  | file
  | choice (names : List Text)
deriving DecidableEq, Repr

structure Switch where
  /-- Its names with their hyphens, the long one last. -/
  names : List Text
  kind : Kind
  /-- What it does. -/
  help : Text
deriving DecidableEq, Repr

namespace Switch

/-- The name that a switch goes by in messages. -/
def name (o : Switch) : Text :=
  o.names.getLast?.getD []

def takesValue (o : Switch) : Bool :=
  o.kind ≠ .flag

def find? (switches : List Switch) (name : Text) : Option Switch :=
  switches.find? fun o => o.names.contains name

def longNames (switches : List Switch) : List Text :=
  switches.flatMap fun o => o.names.filter fun name => name.startsWith "--"

end Switch

/-- A switch as it was given, with its value; a flag has an empty one. -/
structure Given where
  switch : Switch
  value : Text
deriving DecidableEq, Repr

/-- What one argument says: the switches in it, and the switch whose value follows with the name it was
called by. -/
structure Said where
  given : List Given := []
  awaited : Option (Switch × Text) := none

def readShort (switches : List Switch) : Text → Except UsageFault Said
  | [] => .ok {}
  | c :: rest =>
    match Switch.find? switches ['-', c] with
    | none => .error (.unknownOption ['-', c] [])
    | some o =>
      if !o.takesValue then
        (readShort switches rest).map fun said => { said with given := ⟨o, []⟩ :: said.given }
      else if rest.isEmpty then .ok { awaited := some (o, ['-', c]) }
      else .ok { given := [⟨o, rest⟩] }

/-- Reads a long name, with the value behind an equals sign if there is one. -/
def readLong (switches : List Switch) (arg : Text) : Except UsageFault Said :=
  let (name, value) := match Text.cutAt? "=" arg with
    | some (name, value) => (name, some value)
    | none => (arg, none)
  match Switch.find? switches name, value with
  | none, _ => .error (.unknownOption name (Text.alike name (Switch.longNames switches)))
  | some o, some value =>
    if o.takesValue then .ok { given := [⟨o, value⟩] } else .error (.unwantedValue name)
  | some o, none =>
    if o.takesValue then .ok { awaited := some (o, name) } else .ok { given := [⟨o, []⟩] }

/-- Reads an argument that starts with a hyphen. -/
def readSwitch (switches : List Switch) (arg : Text) : Except UsageFault Said :=
  if arg.startsWith "--" then readLong switches arg else readShort switches (arg.drop 1)

def isSwitch (arg : Text) : Bool :=
  arg.startsWith "-" && 1 < arg.length

/-- Arguments divided into switches and the rest, both in order. -/
structure Divided where
  given : List Given := []
  rest : List Text := []
deriving DecidableEq, Repr

namespace Divided

def withGiven (d : Divided) (given : List Given) : Divided :=
  { d with given := given ++ d.given }

def has (d : Divided) (name : Text) : Bool :=
  d.given.any fun g => g.switch.name = name

def values (d : Divided) (name : Text) : List Text :=
  (d.given.filter fun g => g.switch.name = name).map (·.value)

/-- The value of a switch; of several the last one counts. -/
def value? (d : Divided) (name : Text) : Option Text :=
  (d.values name).getLast?

/-- The switches that were given, in the order in which they were first given. -/
def switches (d : Divided) : List Switch :=
  (d.given.map (·.switch)).eraseDups

end Divided

/-- Divides arguments behind a switch that awaits its value. If the rest is not `mixed`, it starts at the
first argument that is no switch. -/
def divideFrom (switches : List Switch) (mixed : Bool) (awaited : Option (Switch × Text)) :
    List Text → Except UsageFault Divided
  | [] =>
    match awaited with
    | some (_, name) => .error (.missingValue name)
    | none => .ok {}
  | arg :: args =>
    match awaited with
    | some (o, _) => (divideFrom switches mixed none args).map (·.withGiven [⟨o, arg⟩])
    | none =>
      if arg = "--" then .ok { rest := args }
      else if isSwitch arg then do
        let said ← readSwitch switches arg
        (divideFrom switches mixed said.awaited args).map (·.withGiven said.given)
      else if mixed then
        (divideFrom switches mixed none args).map fun d => { d with rest := arg :: d.rest }
      else .ok { rest := arg :: args }

def divide (switches : List Switch) (mixed : Bool) (args : List Text) : Except UsageFault Divided :=
  divideFrom switches mixed none args

/-! ### Values -/

/-- What is wrong with the path of a file that has to exist. Arguments have no null characters. -/
def fileFault? (files : Files) (path : Text) : Option Text :=
  match files.find path with
  | .error _ => some ("File " ++ Text.Quoted.encode path ++ " does not exist.")
  | .ok .directory => some ("File " ++ Text.Quoted.encode path ++ " is a directory.")
  | .ok (.file _) => none

def Kind.fault? (files : Files) (value : Text) : Kind → Option Text
  | .flag => none
  | .text _ => none
  | .count =>
    match Text.int? value with
    | none => some (Text.Quoted.encode value ++ " is not a valid integer range.")
    | some n => if n < 0 then some (Text.ofInt n ++ " is not in the range x>=0.") else none
  | .file => fileFault? files value
  | .choice names =>
    if names.contains value then none
    else some (Text.Quoted.encode value ++ " is not one of " ++
      Text.join ", " (names.map Text.Quoted.encode) ++ ".")

/-- The first fault in the values of switches, in the order in which they were first given. -/
def Divided.fault? (files : Files) (d : Divided) : Option UsageFault :=
  d.switches.findSome? fun o =>
    (d.value? o.name).bind fun value => (o.kind.fault? files value).map (.invalid o.name)

end WebBaseline.CommandLine
