import WebBaseline.Files
import WebBaseline.Proofs.Step

/-! Texts of files.

A file is read as its text. Two failures are passed on then: that of a path that no file system is asked for, and
that of bytes that are no text (`Files.failsBy_text`). -/
namespace WebBaseline.Files

open Text.Utf8 (DecodeError)

variable {files : Files} {path : Text}

/-- A path leads to a file whose bytes are no text. -/
def NoText (files : Files) (path : Text) (e : DecodeError) : Prop :=
  ∃ bytes, files.read path = .ok bytes ∧ Text.Utf8.decode bytes = .error e

/-- A path leads to a file of a text. -/
def HasText (files : Files) (path text : Text) : Prop :=
  ∃ bytes, files.read path = .ok bytes ∧ Text.Utf8.decode bytes = .ok text

/-- What reading the text of a file passes on. -/
inductive Escapes (files : Files) (path : Text) : Failure → Prop
  | nullCharacter : '\x00' ∈ path → Escapes files path (.ofBreakdown .nullCharacter)
  | noText {e : DecodeError} : files.NoText path e → Escapes files path (.encoding e)

theorem text_eq_ok_iff {text : Text} (refusal : FileFault → Failure) :
    files.text path refusal = .ok text ↔ files.HasText path text := by
  unfold Files.text HasText
  cases files.read path with
  | error fault => simp
  | ok bytes => simp [mapError_eq_ok_iff]

end WebBaseline.Files
