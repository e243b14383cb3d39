import WebBaseline.Proofs.Settings.Value
import WebBaseline.Proofs.Text.Blank
import WebBaseline.Proofs.Toml.Shown

/-! Settings merged from their sources.

Settings come from the command line, from the program's own table of a document, and from defaults, each field
by itself (`CoreOf`, `SeverityOf`). Whatever a source says has to be in order, even where another source
goes before it (`IsWrong`), and the first thing that is not decides the failure (`Fails`). `decides_ofDocument`
says so of the document, and `decides_override` of what the command line changes; `decides_merge` puts them
together. -/
namespace WebBaseline.Settings

/-! ### The document -/

/-- What a document has under the program's name in the table `tool`. -/
def OwnEntry (document : List (Text × Toml)) (value : Toml) : Prop :=
  ∃ tool, Toml.lookup "tool" document = some (.table tool) ∧ Toml.lookup "baseline-lite" tool = some value

/-- What the program's own table has under a key. -/
def OwnSetting (document : List (Text × Toml)) (key : Text) (value : Toml) : Prop :=
  ∃ own, OwnEntry document (.table own) ∧ Toml.lookup key own = some value

/-- The value under the program's name, if there is one. -/
def ownValue? (document : List (Text × Toml)) : Option Toml :=
  ((Toml.lookup "tool" document).bind Toml.members?).bind (Toml.lookup "baseline-lite")

theorem ownValue?_eq_some_iff {document : List (Text × Toml)} {value : Toml} :
    ownValue? document = some value ↔ OwnEntry document value := by
  have hmembers (tool : List (Text × Toml)) :
      (Toml.lookup "tool" document).bind Toml.members? = some tool ↔
        Toml.lookup "tool" document = some (.table tool) := by
    cases Toml.lookup "tool" document with
    | none => simp
    | some value => cases value <;> simp [Toml.members?]
  simp only [ownValue?, Option.bind_eq_some_iff, hmembers, OwnEntry]

theorem OwnEntry.unique {document : List (Text × Toml)} {a b : Toml} (ha : OwnEntry document a)
    (hb : OwnEntry document b) : a = b :=
  Option.some.inj ((ownValue?_eq_some_iff.mpr ha).symm.trans (ownValue?_eq_some_iff.mpr hb))

theorem ownSection_eq (shown : Text) (document : List (Text × Toml)) :
    ownSection shown document = match ownValue? document with
      | none => .ok []
      | some (.table own) => .ok own
      | some _ => .error (.config (.notTable shown)) := by
  unfold ownSection ownValue?
  cases (Toml.lookup "tool" document).bind Toml.members? <;> rfl

/-- The section has the settings of the document. -/
def IsOwnTable (document own : List (Text × Toml)) : Prop :=
  ∀ key value, Toml.lookup key own = some value ↔ OwnSetting document key value

/-- The program's entry is no table. -/
def IsMisplaced (document : List (Text × Toml)) : Prop :=
  ∃ value, OwnEntry document value ∧ ∀ own, value ≠ .table own

theorem not_isMisplaced_of_ownSetting {document : List (Text × Toml)} {key : Text} {value : Toml}
    (h : OwnSetting document key value) : ¬ IsMisplaced document := by
  obtain ⟨own, hown, -⟩ := h
  exact fun ⟨_, hother, hno⟩ => hno own (hother.unique hown)

theorem decides_ownSection (shown : Text) (document : List (Text × Toml)) :
    Decides (fun f => f = .config (.notTable shown) ∧ IsMisplaced document) (IsOwnTable document)
      (ownSection shown document) := by
  rw [ownSection_eq]
  cases h : ownValue? document with
  | none =>
    have hnone (value : Toml) : ¬ OwnEntry document value := fun hvalue => by
      cases h.symm.trans (ownValue?_eq_some_iff.mpr hvalue)
    have hplaced : ¬ IsMisplaced document := fun ⟨value, hvalue, _⟩ => hnone value hvalue
    refine .ok_of_not hplaced fun key value => iff_of_false nofun ?_
    rintro ⟨own, hown, -⟩
    exact hnone _ hown
  | some value =>
    have hentry := ownValue?_eq_some_iff.mp h
    cases value with
    | table own =>
      have hplaced : ¬ IsMisplaced document := fun ⟨_, hother, hno⟩ => hno own (hother.unique hentry)
      refine .ok_of_not hplaced fun key value => ⟨fun hvalue => ⟨own, hentry, hvalue⟩, ?_⟩
      rintro ⟨other, hother, hvalue⟩
      cases hother.unique hentry
      exact hvalue
    | bool | int | real | str | date | time | moment | arr =>
      have hplaced : IsMisplaced document := ⟨_, hentry, nofun⟩
      exact .error_of hplaced

/-! ### What is wrong -/

/-- One of the sources is not in order. -/
inductive IsWrong (document : List (Text × Toml)) (severity : Option Text) : Prop
  | entry : IsMisplaced document → IsWrong document severity
  | core (value : Toml) : OwnSetting document "core-properties" value → ¬ IsTexts value →
      IsWrong document severity
  | ownSeverity (value : Toml) : OwnSetting document "severity-for-limited" value → ¬ IsSeverity value →
      IsWrong document severity
  | givenSeverity (s : Text) : severity = some s → (∀ v, ¬ Severity.Named s v) → IsWrong document severity

/-- The value names no severity, and all that is looked at before it is in order. -/
inductive Refused (document : List (Text × Toml)) (severity : Option Text) : Toml → Prop
  | own (value : Toml) : OwnSetting document "severity-for-limited" value → ¬ IsSeverity value →
      (∀ core, OwnSetting document "core-properties" core → IsTexts core) → Refused document severity value
  | given (s : Text) : severity = some s → (∀ v, ¬ Severity.Named s v) → ¬ IsWrong document none →
      Refused document severity (.str s)

/-- What merging fails with, by what is wrong first. -/
inductive Fails (depth : Nat) (shown : Text) (document : List (Text × Toml)) (severity : Option Text) :
    Failure → Prop
  | entry : IsMisplaced document → Fails depth shown document severity (.config (.notTable shown))
  | core (value : Toml) : OwnSetting document "core-properties" value → ¬ IsTexts value →
      Fails depth shown document severity (.config (.coreProperties shown))
  | severity (value : Toml) : Refused document severity value →
      Fails depth shown document severity (severityFailure depth value)

variable {depth : Nat} {shown : Text} {document : List (Text × Toml)} {severity : Option Text}

/-- What is wrong with the document is wrong whatever the command line says. -/
theorem Fails.given {f : Failure} (h : Fails depth shown document none f) :
    Fails depth shown document severity f := by
  have hrefused {value : Toml} (h : Refused document none value) : Refused document severity value := by
    cases h with
    | own _ hvalue hno hcore => exact .own value hvalue hno hcore
    | given s hs => cases hs
  cases h with
  | entry h => exact .entry h
  | core value hvalue hno => exact .core value hvalue hno
  | severity value h => exact .severity value (hrefused h)

theorem isWrong_of_refused {value : Toml} (h : Refused document severity value) : IsWrong document severity := by
  cases h with
  | own _ hvalue hno => exact .ownSeverity value hvalue hno
  | given s hs hno => exact .givenSeverity s hs hno

theorem isWrong_of_fails {f : Failure} (h : Fails depth shown document severity f) :
    IsWrong document severity := by
  cases h with
  | entry h => exact .entry h
  | core value hvalue hno => exact .core value hvalue hno
  | severity value h => exact isWrong_of_refused h

/-- Something is wrong just if merging fails. -/
theorem exists_fails_iff : (∃ f, Fails depth shown document severity f) ↔ IsWrong document severity := by
  have hdocument (h : IsWrong document none) : ∃ f, Fails depth shown document none f := by
    cases h with
    | entry h => exact ⟨_, .entry h⟩
    | core value hvalue hno => exact ⟨_, .core value hvalue hno⟩
    | ownSeverity value hvalue hno =>
      by_cases hcore : ∀ core, OwnSetting document "core-properties" core → IsTexts core
      · exact ⟨_, .severity value (.own value hvalue hno hcore)⟩
      · obtain ⟨core, hcore⟩ := Classical.not_forall.mp hcore
        obtain ⟨hcore, hno⟩ := Classical.not_imp.mp hcore
        exact ⟨_, .core core hcore hno⟩
    | givenSeverity s hs => cases hs
  refine ⟨fun ⟨f, hf⟩ => isWrong_of_fails hf, fun h => ?_⟩
  by_cases hnone : IsWrong document none
  · obtain ⟨f, hf⟩ := hdocument hnone
    exact ⟨f, hf.given⟩
  · cases h with
    | entry h => exact absurd (.entry h) hnone
    | core value hvalue hno => exact absurd (.core value hvalue hno) hnone
    | ownSeverity value hvalue hno => exact absurd (.ownSeverity value hvalue hno) hnone
    | givenSeverity s hs hno => exact ⟨_, .severity _ (.given s hs hno hnone)⟩

/-! ### Merged settings -/

/-- The settings of a document, with what the command line says. -/
def merge (depth : Nat) (shown : Text) (document : List (Text × Toml)) (core : Option (List Text))
    (severity : Option Text) : Except Failure Settings :=
  (ofDocument depth shown document).bind fun settings => settings.override depth core severity

/-- The core properties: the names given on the command line if it gives any, or those of the document, or
none, without blanks around them and without blank ones. -/
inductive CoreOf (document : List (Text × Toml)) (core : Option (List Text)) : List Text → Prop
  | given (names : List Text) : core = some names → names ≠ [] →
      CoreOf document core ((names.map Text.strip).filter (· ≠ []))
  | own (names : List Text) : core.getD [] = [] →
      OwnSetting document "core-properties" (.arr (names.map .str)) →
      CoreOf document core ((names.map Text.strip).filter (· ≠ []))
  | usual : core.getD [] = [] → (∀ value, ¬ OwnSetting document "core-properties" value) →
      CoreOf document core []

/-- The severity: the one named on the command line, or the one of the document, or `information`. -/
inductive SeverityOf (document : List (Text × Toml)) (severity : Option Text) : Severity → Prop
  | given (s : Text) (v : Severity) : severity = some s → Severity.Named s v →
      SeverityOf document severity v
  | own (s : Text) (v : Severity) : severity = none → OwnSetting document "severity-for-limited" (.str s) →
      Severity.Named s v → SeverityOf document severity v
  | usual : severity = none → (∀ value, ¬ OwnSetting document "severity-for-limited" value) →
      SeverityOf document severity .information

/-- No name is blank or has blanks around it, and the severity is one that settings can give. -/
structure IsNormal (settings : Settings) : Prop where
  core : ∀ name ∈ settings.coreProperties, name ≠ [] ∧ Text.strip name = name
  severity : settings.severityForLimited ∈ Severity.all

theorem ofDocument_eq (depth : Nat) (shown : Text) (document : List (Text × Toml)) :
    ofDocument depth shown document = (ownSection shown document).bind fun own =>
      (readOr [] (coreOf shown) (Toml.lookup "core-properties" own)).bind fun core =>
        (readOr .information (severityOf depth) (Toml.lookup "severity-for-limited" own)).bind fun severity =>
          .ok ⟨core, severity⟩ := by
  unfold ofDocument
  cases ownSection shown document with
  | error f => rfl
  | ok own =>
    simp only [bind, Except.bind]
    cases Toml.lookup "core-properties" own <;> cases Toml.lookup "severity-for-limited" own <;> rfl

theorem override_eq (settings : Settings) (depth : Nat) (core : Option (List Text)) (severity : Option Text) :
    settings.override depth core severity =
      (readOr settings.severityForLimited (fun s => severityOf depth (.str s)) severity).bind fun v =>
        .ok ⟨if core.getD [] = [] then settings.coreProperties else strippedNames (core.getD []), v⟩ := by
  unfold override
  rcases core with _ | _ | _ <;> cases severity <;> rfl

/-- A field that is read from the section is in order if it is in the document. -/
theorem decides_field {α : Type} {own : List (Text × Toml)} (hown : IsOwnTable document own) (key : Text)
    (default : α) {read : Toml → Except Failure α} {bad : Toml → Failure → Prop} {good : Toml → α → Prop}
    (h : ∀ value, Decides (bad value) (good value) (read value)) :
    Decides (fun f => ∃ value, OwnSetting document key value ∧ bad value f)
      (fun a => (∃ value, OwnSetting document key value ∧ good value a) ∨
        (∀ value, ¬ OwnSetting document key value) ∧ a = default)
      (readOr default read (Toml.lookup key own)) := by
  refine (decides_readOr default h (Toml.lookup key own)).congr (fun f => ?_) fun a ha => ?_
  · simp only [hown key]
  · simpa only [Option.eq_none_iff_forall_ne_some, ne_eq, hown key] using ha

theorem decides_ownCore {own : List (Text × Toml)} (hown : IsOwnTable document own) (shown : Text) :
    Decides (fun f => ∃ value, OwnSetting document "core-properties" value ∧
        f = .config (.coreProperties shown) ∧ ¬ IsTexts value)
      (CoreOf document none) (readOr [] (coreOf shown) (Toml.lookup "core-properties" own)) := by
  refine (decides_field hown _ [] (decides_coreOf shown)).congr (fun _ => Iff.rfl) fun core hcore => ?_
  rcases hcore with ⟨_, hcore, names, rfl, rfl⟩ | ⟨hnone, rfl⟩
  · exact .own names rfl hcore
  · exact .usual rfl hnone

theorem decides_ownSeverity {own : List (Text × Toml)} (hown : IsOwnTable document own) (depth : Nat) :
    Decides (fun f => ∃ value, OwnSetting document "severity-for-limited" value ∧
        f = severityFailure depth value ∧ ¬ IsSeverity value)
      (SeverityOf document none)
      (readOr .information (severityOf depth) (Toml.lookup "severity-for-limited" own)) := by
  refine (decides_field hown _ .information (decides_severityOf depth)).congr (fun _ => Iff.rfl) fun v hv => ?_
  rcases hv with ⟨_, hv, s, rfl, hname⟩ | ⟨hnone, rfl⟩
  · exact .own s v rfl hv hname
  · exact .usual rfl hnone

/-- The settings of the document alone. -/
theorem decides_ofDocument (depth : Nat) (shown : Text) (document : List (Text × Toml)) :
    Decides (Fails depth shown document none)
      (fun settings => CoreOf document none settings.coreProperties ∧
        SeverityOf document none settings.severityForLimited)
      (ofDocument depth shown document) := by
  rw [ofDocument_eq]
  refine ((decides_ownSection shown document).bind fun own hown =>
    (decides_ownCore hown shown).bind fun core hcore =>
      (decides_ownSeverity hown depth).map fun v hv => ⟨hcore, hv⟩).congr
    (fun f => ⟨fun h => ?_, fun h => ?_⟩) fun _ => id
  · rcases h with ⟨rfl, h⟩ | ⟨-, ⟨value, hvalue, rfl, hno⟩ | ⟨hcore, value, hvalue, rfl, hno⟩⟩
    · exact .entry h
    · exact .core value hvalue hno
    · refine .severity value (.own value hvalue hno fun core hvalue => ?_)
      exact Classical.byContradiction fun hno => hcore _ ⟨core, hvalue, rfl, hno⟩
  · have hplaced {key : Text} {value : Toml} (hvalue : OwnSetting document key value) (g : Failure) :
        ¬ (g = .config (.notTable shown) ∧ IsMisplaced document) :=
      fun hg => not_isMisplaced_of_ownSetting hvalue hg.2
    cases h with
    | entry h => exact .inl ⟨rfl, h⟩
    | core value hvalue hno => exact .inr ⟨hplaced hvalue, .inl ⟨value, hvalue, rfl, hno⟩⟩
    | severity value h =>
      cases h with
      | own _ hvalue hno hcore =>
        have htexts (g : Failure) : ¬ ∃ core, OwnSetting document "core-properties" core ∧
            g = .config (.coreProperties shown) ∧ ¬ IsTexts core :=
          fun ⟨core, hown, _, hno⟩ => hno (hcore core hown)
        exact .inr ⟨hplaced hvalue, .inr ⟨htexts, value, hvalue, rfl, hno⟩⟩
      | given s hs => cases hs

theorem CoreOf.of_getD {document : List (Text × Toml)} {core : Option (List Text)} {names : List Text}
    (h : CoreOf document none names) (hcore : core.getD [] = []) : CoreOf document core names := by
  cases h with
  | given _ hnone => cases hnone
  | own names _ hvalue => exact .own names hcore hvalue
  | usual _ hvalue => exact .usual hcore hvalue

/-- What the command line says goes before what settings say already. -/
theorem decides_override {settings : Settings} (hcore : CoreOf document none settings.coreProperties)
    (hseverity : SeverityOf document none settings.severityForLimited) (depth : Nat)
    (core : Option (List Text)) (severity : Option Text) :
    Decides (fun f => ∃ s, severity = some s ∧ f = severityFailure depth (.str s) ∧
        ∀ v, ¬ Severity.Named s v)
      (fun settings => CoreOf document core settings.coreProperties ∧
        SeverityOf document severity settings.severityForLimited)
      (settings.override depth core severity) := by
  have hnames : CoreOf document core
      (if core.getD [] = [] then settings.coreProperties else strippedNames (core.getD [])) := by
    split
    · rename_i hnone
      exact hcore.of_getD hnone
    · rename_i hsome
      cases core with
      | none => exact absurd rfl hsome
      | some names =>
        rw [strippedNames_eq]
        exact .given names rfl hsome
  rw [override_eq]
  refine (decides_readOr settings.severityForLimited (decides_severityOf_str depth) severity).map fun v hv =>
    ⟨hnames, ?_⟩
  rcases hv with ⟨s, hs, hname⟩ | ⟨rfl, rfl⟩
  · exact .given s v hs hname
  · exact hseverity

/-- The command line is looked at if nothing is wrong with the document. -/
theorem fails_iff {f : Failure} :
    Fails depth shown document severity f ↔ Fails depth shown document none f ∨
      (∀ g, ¬ Fails depth shown document none g) ∧
        ∃ s, severity = some s ∧ f = severityFailure depth (.str s) ∧ ∀ v, ¬ Severity.Named s v := by
  have hnone : (∀ g, ¬ Fails depth shown document none g) ↔ ¬ IsWrong document none := by
    rw [← not_exists, exists_fails_iff]
  rw [hnone]
  constructor
  · intro h
    cases h with
    | entry h => exact .inl (.entry h)
    | core value hvalue hno => exact .inl (.core value hvalue hno)
    | severity value h =>
      cases h with
      | own _ hvalue hno hcore => exact .inl (.severity value (.own value hvalue hno hcore))
      | given s hs hno hright => exact .inr ⟨hright, s, hs, rfl, hno⟩
  · rintro (h | ⟨hright, s, hs, rfl, hno⟩)
    · exact h.given
    · exact .severity _ (.given s hs hno hright)

/-- What is wrong with any source is a failure, and otherwise each field has its value from the first source
that gives one. -/
theorem decides_merge (depth : Nat) (shown : Text) (document : List (Text × Toml)) (core : Option (List Text))
    (severity : Option Text) :
    Decides (Fails depth shown document severity)
      (fun settings => CoreOf document core settings.coreProperties ∧
        SeverityOf document severity settings.severityForLimited)
      (merge depth shown document core severity) := by
  have hsteps := (decides_ofDocument depth shown document).bind fun settings h =>
    decides_override h.1 h.2 depth core severity
  exact hsteps.congr (fun f => fails_iff.symm) fun _ => id

theorem isNormal_of {document : List (Text × Toml)} {core : Option (List Text)} {severity : Option Text}
    {settings : Settings} (hcore : CoreOf document core settings.coreProperties)
    (hseverity : SeverityOf document severity settings.severityForLimited) : IsNormal settings := by
  have hstripped (names : List Text) : ∀ name ∈ (names.map Text.strip).filter (· ≠ []),
      name ≠ [] ∧ Text.strip name = name := by
    intro name hname
    obtain ⟨hmem, hne⟩ := List.mem_filter.mp hname
    obtain ⟨s, -, rfl⟩ := List.mem_map.mp hmem
    exact ⟨of_decide_eq_true hne, (Text.isTrimmed_strip s).strip_eq⟩
  obtain ⟨names, v⟩ := settings
  constructor
  · cases hcore with
    | given names => exact hstripped names
    | own names => exact hstripped names
    | usual => nofun
  · cases hseverity with
    | given s v hs hname => exact hname.1
    | own s v hs hvalue hname => exact hname.1
    | usual =>
      have hmem : Severity.information ∈ Severity.all := by decide
      exact hmem

end WebBaseline.Settings
