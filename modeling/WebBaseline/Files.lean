import WebBaseline.Failure
import WebBaseline.Path

/-!
The files that the program can read, under the names that lead to them from the root. A path that does not
start at the root starts at the working directory. A directory exists if it is listed or if something is
listed below it. Users have directories of their own, which a tilde at the front of a path stands for.
-/

namespace WebBaseline

/-- What is listed under a path. -/
inductive Item where
  | file (bytes : List UInt8)
  | directory
deriving DecidableEq, Repr

/-- Why a path cannot be opened. -/
inductive FileFault where
  | missing
  | isDirectory
  | notDirectory
  | nameTooLong
  /-- No file system is asked for such a path. -/
  | nullCharacter
deriving DecidableEq, Repr

namespace FileFault

def message : FileFault → Text
  | missing => "No such file or directory"
  | isDirectory => "Is a directory"
  | notDirectory => "Not a directory"
  | nameTooLong => "File name too long"
  | nullCharacter => Breakdown.nullCharacter.message

/-- The number that file systems give a fault. -/
def number : FileFault → Nat
  | missing => 2
  | notDirectory => 20
  | isDirectory => 21
  | nameTooLong => 36
  | nullCharacter => 0

/-- How a fault is written with its number and the path. -/
def shown (path : Text) (fault : FileFault) : Text :=
  "[Errno " ++ Text.ofNat fault.number ++ "] " ++ fault.message ++ ": " ++ Text.Quoted.encode path

/-- The failure of a fault; `refusal` is that of the file systems' own ones. -/
def failure (refusal : FileFault → Failure) : FileFault → Failure
  | nullCharacter => .ofBreakdown .nullCharacter
  | fault => refusal fault

end FileFault

/-- Files and directories under the names that lead to them from the root. -/
structure Files where
  /-- The working directory, as it is shown. -/
  directory : Text
  items : List (List Text × Item)
  /-- The directories of users by their names; the present user has the empty name. -/
  homes : List (Text × Text)

namespace Files

/-- The names that a path starts from: those of the working directory, or none at the root. -/
def start (directory path : Text) : List Text :=
  if (Path.root path).isEmpty then Path.names directory else []

/-- The files with these paths; those that do not start at the root are below the working directory. If nothing
else is said, the present user's directory is the root. -/
def ofList (directory : Text) (items : List (Text × Item)) (homes : List (Text × Text) := [([], "/")]) :
    Files where
  directory
  homes
  items := (Path.names directory, .directory) ::
    items.map fun (path, item) => (start directory path ++ Path.names path, item)

def at? (files : Files) (names : List Text) : Option Item :=
  match files.items.lookup names with
  | some item => some item
  | none =>
    if names.isEmpty || files.items.any (fun (listed, _) => names.isPrefixOf listed) then
      some .directory
    else none

/-- Follows names from the directory that the reversed names `reached` lead to. An empty name and a single
dot stay there, two dots go up. -/
def follow (files : Files) (reached : List Text) : List Text → Except FileFault Item
  | [] =>
    match files.at? reached.reverse with
    | some item => .ok item
    | none => .error .missing
  | name :: rest =>
    match files.at? reached.reverse with
    | none => .error .missing
    | some (.file _) => .error .notDirectory
    | some .directory =>
      if name.isEmpty || name = "." then follow files reached rest
      else if name = ".." then follow files (reached.drop 1) rest
      else if 255 < Text.Utf8.byteSize name then .error .nameTooLong
      else follow files (name :: reached) rest

def find (files : Files) (path : Text) : Except FileFault Item :=
  if path.contains '\x00' then .error .nullCharacter
  else if path.isEmpty then .error .missing
  else if 4096 ≤ Text.Utf8.byteSize path then .error .nameTooLong
  else follow files (start files.directory path).reverse (Text.splitOn '/' path)

def read (files : Files) (path : Text) : Except FileFault (List UInt8) :=
  match files.find path with
  | .ok (.file bytes) => .ok bytes
  | .ok .directory => .error .isDirectory
  | .error fault => .error fault

def isFile (files : Files) (path : Text) : Bool :=
  match files.find path with
  | .ok (.file _) => true
  | _ => false

/-- The text of a file; `refusal` is the failure of a path that cannot be opened. -/
def text (files : Files) (path : Text) (refusal : FileFault → Failure) : Except Failure Text :=
  match files.read path with
  | .error fault => .error (fault.failure refusal)
  | .ok bytes => (Text.Utf8.decode bytes).mapError .encoding

/-- The directory of a user. One that starts with a tilde itself is none. -/
def home? (files : Files) (user : Text) : Option Text :=
  (files.homes.lookup user).filter fun home => !home.startsWith "~"

end Files

end WebBaseline
