import WebBaseline.Text.CaseTable
import WebBaseline.Text.Ranges

/-!
Letter case in every script. Lower-casing maps each capital to its partner; a dotted capital I becomes
two code points, and a capital sigma at the end of a word takes its final form.
-/

namespace WebBaseline.Text

def isUpper (c : Char) : Bool :=
  Ranges.containsStep upperSteps c.toNat

/-- The single lower-case partner of a capital; every other character is its own. -/
def lowerChar (c : Char) : Char :=
  if c.toNat < 128 then c.toLower
  else match lowerSteps.find? fun (first, last, step, _) =>
      first ≤ c.toNat && c.toNat ≤ last && (c.toNat - first) % step == 0 with
    | some (_, _, _, shift) => Char.ofNat (c.toNat + shift).toNat
    | none => c

/-- Whether the nearest character of `s` that is not skipped has case. -/
def meetsCased (s : Text) : Bool :=
  match s.dropWhile fun c => Ranges.contains caseIgnorableRanges c.toNat with
  | [] => false
  | c :: _ => Ranges.contains casedRanges c.toNat

/-- Lower-casing of `s` behind the text whose reverse is `before`. -/
def lowerAfter (before : Text) : Text → Text
  | [] => []
  | c :: s =>
    let image : Text :=
      if c = 'Σ' then
        if meetsCased before && !meetsCased s then ['ς'] else ['σ']
      else if c = 'İ' then ['i', Char.ofNat 0x307]
      else [lowerChar c]
    image ++ lowerAfter (c :: before) s

def lower (s : Text) : Text :=
  lowerAfter [] s

end WebBaseline.Text
