import WebBaseline.Proofs.Markup.Locate
import WebBaseline.Proofs.Scan.Canonical
import WebBaseline.Proofs.Stylesheet.Locate

/-! Keys and scanners agree.

A path of the compatibility data gives markup keys, and a scanner builds keys out of what it reads.
`scan_canonical` says that a scan of the canonical source of a key reports the feature, under this key and
at its place, whatever the names in the path. -/
namespace WebBaseline

open Text (IsName IsLowName)

/-! ### Scanning a sample -/

theorem scan_name (text : Text) (language : Language) (index : Index) :
    scan text language.name index = language.scan text index := by
  have h : Language.ofName? language.name = some language := by cases language <;> decide
  rw [scan, h]

/-- A scan reports the construct of the sample, under `key` and with `status`. -/
def Sample.Reported (s : Sample) (index : Index) (key : Text) (status : Status) : Prop :=
  ∃ f ∈ scan s.source s.language.name index, f.key = key ∧ f.status = status ∧ f.range = s.range

theorem Sample.reported {s : Sample} {text key : Text} {index : Index} {status : Status}
    {start stop : Nat} (hsource : s.source = text)
    (h : ∃ f ∈ s.language.scan text index, f.key = key ∧ f.status = status ∧
      f.range = Range.onLine 0 start stop)
    (hstart : start = s.before.length) (hstop : stop = s.before.length + s.construct.length) :
    s.Reported index key status := by
  subst hsource hstart hstop
  rw [Sample.Reported, scan_name]
  exact h

variable {index : Index} {e : Entry}

theorem reported_pseudo {x colons : Text} (hx : IsLowName x)
    (hcolons : colons = [':'] ∨ colons = [':', ':'])
    (he : index.markup.get? (colons ++ x) = some e) (hw : e.status ≠ .widely) :
    Sample.Reported ⟨.css, "a", colons ++ x, " \x7b\x7d"⟩ index (colons ++ x) e.status := by
  have hmention := Stylesheet.mem_mentions_pseudo hx hcolons
  refine Sample.reported ?_ (Stylesheet.exists_finding_mention hmention he hw) ?_ ?_
  · simp [Sample.source]
  · simp
  · simp

/-- The canonical source of a key is reported under the key. -/
theorem Canonical.reported {parts : List Text} {k : Text} {sample : Sample}
    (h : Canonical parts k sample) (hnames : ∀ part ∈ parts.drop 2, IsLowName part)
    (he : index.markup.get? k = some e) (hw : e.status ≠ .widely)
    (hglobal : parts.take 2 = ["html", "global_attributes"] →
      k ∉ Markup.commonAttributes ∧ index.markup.get? ("div@" ++ k) = none) :
    sample.Reported index k e.status := by
  have hy : IsLowName "y" := ⟨by decide, by decide +kernel⟩
  have hdiv : IsLowName "div" := ⟨by decide, by decide +kernel⟩
  cases h with
  | property p =>
    obtain ⟨hp, -⟩ := List.forall_mem_cons.mp hnames
    have hmention := Stylesheet.mem_mentions_property hp hy
    refine Sample.reported ?_ (Stylesheet.exists_finding_mention hmention he hw) ?_ ?_
    · simp [Sample.source, Stylesheet.written]
    · simp
    · simp
      omega
  | propertyValue p v =>
    obtain ⟨hp, hnames⟩ := List.forall_mem_cons.mp hnames
    obtain ⟨hv, -⟩ := List.forall_mem_cons.mp hnames
    have hmention := Stylesheet.mem_mentions_value hp hv
    refine Sample.reported ?_ (Stylesheet.exists_finding_mention hmention he hw) ?_ ?_
    · simp [Sample.source, Stylesheet.written]
    · simp
      omega
    · simp
      omega
  | pseudoClass x =>
    obtain ⟨hx, -⟩ := List.forall_mem_cons.mp hnames
    exact reported_pseudo hx (.inl rfl) he hw
  | pseudoElement x =>
    obtain ⟨hx, -⟩ := List.forall_mem_cons.mp hnames
    exact reported_pseudo hx (.inr rfl) he hw
  | atRule x =>
    obtain ⟨hx, -⟩ := List.forall_mem_cons.mp hnames
    have hmention := Stylesheet.mem_mentions_atRule hx
    refine Sample.reported ?_ (Stylesheet.exists_finding_mention hmention he hw) ?_ ?_
    · simp [Sample.source]
    · simp
    · simp
  | element t =>
    obtain ⟨ht, -⟩ := List.forall_mem_cons.mp hnames
    refine Sample.reported ?_ (Markup.exists_finding_element ht he hw) ?_ ?_
    · simp [Sample.source, Markup.Tag.text]
    · simp
    · simp
  | attributeName t a =>
    obtain ⟨ht, hnames⟩ := List.forall_mem_cons.mp hnames
    obtain ⟨ha, -⟩ := List.forall_mem_cons.mp hnames
    have hkeys : Markup.attributeKeys t a none = [] ++ (t ++ "@" ++ a, false) :: _ := rfl
    have hfound := Markup.exists_finding_bare ht ha hkeys (fun _ hk => by cases hk) he hw
    refine Sample.reported ?_ hfound ?_ ?_
    · simp [Sample.source, Markup.Tag.text]
    · simp
    · simp
  | attributeValue t a v =>
    obtain ⟨ht, hnames⟩ := List.forall_mem_cons.mp hnames
    obtain ⟨ha, hnames⟩ := List.forall_mem_cons.mp hnames
    obtain ⟨hv, -⟩ := List.forall_mem_cons.mp hnames
    refine Sample.reported ?_ (Markup.exists_finding_quoted ht ha hv he hw) ?_ ?_
    · simp [Sample.source, Markup.Tag.text]
    · simp
      omega
    · simp
      omega
  | globalAttribute g =>
    obtain ⟨hg, -⟩ := List.forall_mem_cons.mp hnames
    obtain ⟨hcommon, hother⟩ := hglobal rfl
    have hkeys : Markup.attributeKeys "div" k none = [("div" ++ "@" ++ k, false)] ++ [(k, false)] := by
      simp [Markup.attributeKeys, hcommon]
    have hfound := Markup.exists_finding_bare hdiv hg hkeys (List.forall_mem_singleton.mpr hother) he hw
    refine Sample.reported ?_ hfound ?_ ?_
    · simp [Sample.source, Markup.Tag.text]
    · simp
    · simp

/-- **Every markup key of a path can be located.** A global attribute is looked for on a `div`, where it
must be neither common nor known as an attribute of that element. -/
theorem scan_canonical (path : Text) (index : Index) (k : Text) (e : Entry)
    (hnames : ∀ part ∈ (Feature.parts path).drop 2, IsName part)
    (hk : k ∈ Feature.markupKeys path) (he : index.markup.get? k = some e)
    (hw : e.status ≠ .widely)
    (hglobal : ((Feature.parts path).map Text.lower).take 2 = ["html", "global_attributes"] →
      k ∉ Markup.commonAttributes ∧ index.markup.get? ("div@" ++ k) = none) :
    (∃ sample, Canonical ((Feature.parts path).map Text.lower) k sample) ∧
      ∀ sample, Canonical ((Feature.parts path).map Text.lower) k sample →
        ∃ f ∈ scan sample.source sample.language.name index,
          f.key = k ∧ f.status = e.status ∧ f.range = sample.range := by
  have hlow : ∀ part ∈ ((Feature.parts path).map Text.lower).drop 2, IsLowName part := by
    intro part hpart
    rw [← List.map_drop] at hpart
    obtain ⟨name, hname, rfl⟩ := List.mem_map.mp hpart
    exact (hnames name hname).lowered
  exact ⟨exists_canonical _ k hk, fun sample h => h.reported hlow he hw hglobal⟩

/-- A global attribute, from a path in mixed case. -/
theorem scan_canonical_popover :
    let path : Text := " HTML.global_attributes.PopOver\n"
    let limited : Entry := { id := "popover", name := "Popover", status := .limited }
    let index : Index := { markup := [("p@popover", limited), ("popover", limited)] }
    "popover".toList ∈ Feature.markupKeys path ∧
      ∃ f ∈ scan "<div popover>" "html" index,
        f.key = "popover" ∧ f.status = .limited ∧ f.range = Range.onLine 0 5 12 := by
  intro path limited index
  have hk : "popover".toList ∈ Feature.markupKeys path := by decide +kernel
  have hparts : (Feature.parts path).map Text.lower = ["html", "global_attributes", "popover"] := by
    decide +kernel
  have h := scan_canonical path index "popover" limited (by decide +kernel) hk (by decide +kernel)
    (by decide) (fun _ => by decide +kernel)
  rw [hparts] at h
  exact ⟨hk, h.2 _ (.globalAttribute "popover")⟩

end WebBaseline
