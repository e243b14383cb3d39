import WebBaseline.CommandLine.Run
import WebBaseline.Proofs.Settings.Load

/-! What loading can fail with.

Settings and datasets that are files load, or fail with a failure of the program's own, which a command ends
with as an error. Some failures are passed on as they are, and end the command, too: those of bytes that are no
text, of paths that cannot be asked for, of readers that break, and of values that cannot be written
(`Dataset.Escapes`, `Settings.Escapes`, `CommandLine.Escapes`). `loading_failures` says that there are no
others. -/
namespace WebBaseline

/-! ### Datasets -/

namespace Dataset

/-- The first name of a path is a tilde with the name of a user behind it. -/
def IsBelow (source user : Text) : Prop :=
  Path.root source = [] ∧ ∃ below, Path.names source = ('~' :: user) :: below

/-- What reading a dataset from a file passes on. -/
inductive Escapes (files : Files) (read : Text → Reading Json) (source : Text) : Failure → Prop
  | userName {user : Text} : IsBelow source user → '\x00' ∈ user →
      Escapes files read source (.ofBreakdown .nullCharacter)
  | homeless {user : Text} : IsBelow source user → '\x00' ∉ user → files.home? user = none →
      Escapes files read source (.ofBreakdown homeless)
  | file {file : Text} {f : Failure} : path files source = .ok file → files.Escapes file f →
      Escapes files read source f
  | broken {file text : Text} {breakdown : Breakdown} : path files source = .ok file →
      files.HasText file text → read (Text.unifyBreaks text) = .broken breakdown →
      Escapes files read source (.ofBreakdown breakdown)

end Dataset

/-! ### The index -/

namespace CommandLine

/-- What loading an index passes on. The settings are loaded first, then the features, then the compatibility
table. -/
inductive Escapes (world : World) (sources : Sources) (severity : Option Text) (f : Failure) : Prop
  | settings : Settings.Escapes world.settings world.files sources.config severity f →
      Escapes world sources severity f
  | features (settings : Settings) : world.settingsOf sources severity = .ok settings →
      Dataset.Escapes world.files world.readJson sources.features f → Escapes world sources severity f
  | compat (settings : Settings) (dataset : Feature.Dataset) (source : Text) :
      world.settingsOf sources severity = .ok settings →
      (Dataset.readFile world.files sources.features world.readJson).bind
        (Dataset.features sources.features) = .ok dataset →
      source ∈ sources.compat → source ≠ [] → Dataset.Escapes world.files world.readJson source f →
      Escapes world sources severity f

end CommandLine

end WebBaseline
