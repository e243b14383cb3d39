import WebBaseline.Feature.Key
import WebBaseline.Language

/-! Sources that use a feature.

A path of the compatibility data gives markup keys. For every key there is a short source that uses the
feature (`Canonical`, `exists_canonical`), and the source shows which form the key has. -/
namespace WebBaseline

/-- A construct in a source of one line. -/
structure Sample where
  language : Language
  before : Text
  construct : Text
  after : Text

namespace Sample

def source (s : Sample) : Text :=
  s.before ++ s.construct ++ s.after

/-- Where the construct stands. -/
def range (s : Sample) : Range :=
  Range.onLine 0 s.before.length (s.before.length + s.construct.length)

end Sample

/-- The source that uses the feature of a path, given by its lower-case parts, under one of its keys. -/
inductive Canonical : (parts : List Text) → (key : Text) → Sample → Prop where
  | property (p : Text) :
    Canonical ["css", "properties", p] p ⟨.css, "a \x7b ", p, ": y; \x7d"⟩
  | propertyValue (p v : Text) :
    Canonical ["css", "properties", p, v] (p ++ "::" ++ v) ⟨.css, "a \x7b " ++ p ++ ": ", v, "; \x7d"⟩
  | pseudoClass (x : Text) :
    Canonical ["css", "selectors", x] (":" ++ x) ⟨.css, "a", ":" ++ x, " \x7b\x7d"⟩
  | pseudoElement (x : Text) :
    Canonical ["css", "selectors", x] ("::" ++ x) ⟨.css, "a", "::" ++ x, " \x7b\x7d"⟩
  | atRule (x : Text) :
    Canonical ["css", "at-rules", x] ("@" ++ x) ⟨.css, "", "@" ++ x, " y \x7b\x7d"⟩
  | element (t : Text) :
    Canonical ["html", "elements", t] t ⟨.html, "<", t, ">"⟩
  | attributeName (t a : Text) :
    Canonical ["html", "elements", t, a] (t ++ "@" ++ a) ⟨.html, "<" ++ t ++ " ", a, ">"⟩
  | attributeValue (t a v : Text) :
    Canonical ["html", "elements", t, a, v] (t ++ "@" ++ a ++ "::" ++ v)
      ⟨.html, "<" ++ t ++ " " ++ a ++ "=\"", v, "\">"⟩
  | globalAttribute (g : Text) :
    Canonical ["html", "global_attributes", g] g ⟨.html, "<div ", g, ">"⟩

/-- Every key of a path has a canonical source. -/
theorem exists_canonical (parts : List Text) :
    ∀ k ∈ Feature.markupKeysOf parts, ∃ sample, Canonical parts k sample := by
  fun_cases Feature.markupKeysOf parts with
  | case1 p => exact List.forall_mem_singleton.mpr ⟨_, .property p⟩
  | case2 p v => exact List.forall_mem_singleton.mpr ⟨_, .propertyValue p v⟩
  | case5 x rest hrest =>
    obtain rfl : rest = [] := by simpa using hrest
    exact List.forall_mem_cons.mpr
      ⟨⟨_, .pseudoClass x⟩, List.forall_mem_singleton.mpr ⟨_, .pseudoElement x⟩⟩
  | case6 x rest hrest =>
    obtain rfl : rest = [] := by simpa using hrest
    exact List.forall_mem_singleton.mpr ⟨_, .atRule x⟩
  | case8 t => exact List.forall_mem_singleton.mpr ⟨_, .element t⟩
  | case9 t a => exact List.forall_mem_singleton.mpr ⟨_, .attributeName t a⟩
  | case10 t a v => exact List.forall_mem_singleton.mpr ⟨_, .attributeValue t a v⟩
  | case12 category g rest _ hglobal =>
    simp only [Bool.and_eq_true, decide_eq_true_eq, List.isEmpty_iff] at hglobal
    obtain ⟨rfl, rfl⟩ := hglobal
    exact List.forall_mem_singleton.mpr ⟨_, .globalAttribute g⟩
  | case3 | case4 | case7 | case11 | case13 | case14 | case15 => simp

end WebBaseline
