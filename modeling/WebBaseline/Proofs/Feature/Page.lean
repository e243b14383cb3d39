import WebBaseline.Proofs.Feature.GuessedPage
import WebBaseline.Proofs.Feature.Member

/-! Where the address of a page comes from.

An address can come from the entry itself, from the compatibility table, from the page name of the entry,
or from a guess (`Origin`, `Gives`). The origins of an entry with some paths stand in one order
(`origins`), and the address is the first that is given (`page?_first`): the table's address of the last
path goes before the page name and before the guess for the first path. The table gives an address for a
path if its names lead through nested objects to one with an address (`TableGives`); a value on the way
that is no object leads nowhere. -/
namespace WebBaseline.Feature

/-! ### The compatibility table -/

/-- The names lead from one value to another through nested objects. -/
inductive Reaches : Json → List Text → Json → Prop where
  | here (node : Json) : Reaches node [] node
  | step {node child target : Json} {name : Text} {names : List Text} (h : node.HasMember name child)
    (rest : Reaches child names target) : Reaches node (name :: names) target

theorem follow?_eq_some_iff {node target : Json} {names : List Text} :
    follow? node names = some target ↔ Reaches node names target := by
  induction names generalizing node with
  | nil =>
    constructor
    · intro h
      cases h
      exact .here _
    · intro h
      cases h
      rfl
  | cons name names ih =>
    simp only [follow?, Option.bind_eq_some_iff, Json.get?_eq_some_iff, ih]
    constructor
    · rintro ⟨child, h, hrest⟩
      exact .step h hrest
    · intro h
      cases h with
      | step h hrest => exact ⟨_, h, hrest⟩

/-- The table has an address for the path. -/
def TableGives (table : Json) (path url : Text) : Prop :=
  ∃ node compat, Reaches table (path.splitOn '.') node ∧ node.HasMember "__compat" compat ∧
    HasText compat "mdn_url" url

theorem tablePage?_eq_some_iff {table : Json} {path url : Text} :
    tablePage? table path = some url ↔ TableGives table path url := by
  simp only [tablePage?, TableGives, Option.bind_eq_some_iff, follow?_eq_some_iff, Json.get?_eq_some_iff,
    textMember?_eq_some_iff, exists_and_left]

/-! ### Origins -/

/-- Where an address may come from: a member of the entry, the compatibility table's value for a path, the
page name of the entry, or a guess for a path. -/
inductive Origin where
  | own (name : Text)
  | table (path : Text)
  | named
  | guess (path : Text)

/-- The origins for an entry with these paths, in the order in which they count. -/
def origins (paths : List Text) : List Origin :=
  [.own "mdn_url", .own "mdnUrl"] ++ paths.map .table ++ [.named] ++ paths.map .guess

/-- The origin gives the address. -/
inductive Gives (table entry : Json) : Origin → Text → Prop where
  | own {name url : Text} (h : HasText entry name url) : Gives table entry (.own name) url
  | table {path url : Text} (h : TableGives table path url) : Gives table entry (.table path) url
  | named {name : Text} (h : HasText entry "mdn_slug" name) :
    Gives table entry .named (docsBase ++ "/" ++ stripSlashes name)
  | guess {path url : Text} (h : Guess (parts path) url) : Gives table entry (.guess path) url

variable {table entry : Json} {paths : List Text}

theorem Gives.ne_nil {origin : Origin} {url : Text} (h : Gives table entry origin url) : url ≠ [] := by
  cases h with
  | own h => exact h.ne_nil
  | table h =>
    obtain ⟨_, _, -, -, htext⟩ := h
    exact htext.ne_nil
  | named => exact List.cons_ne_nil _ _
  | guess h => exact h.ne_nil

/-- The address that an origin gives. -/
def address? (table entry : Json) : Origin → Option Text
  | .own name => textMember? entry name
  | .table path => tablePage? table path
  | .named => namedPage? entry
  | .guess path => guessedPage path

theorem address?_eq_some_iff {origin : Origin} {url : Text} :
    address? table entry origin = some url ↔ Gives table entry origin url := by
  cases origin with
  | own name =>
    rw [address?, textMember?_eq_some_iff]
    constructor
    · exact .own
    · rintro ⟨h⟩
      exact h
  | table path =>
    rw [address?, tablePage?_eq_some_iff]
    constructor
    · exact .table
    · rintro ⟨⟩
      assumption
  | named =>
    simp only [address?, namedPage?, Option.map_eq_some_iff, textMember?_eq_some_iff]
    constructor
    · rintro ⟨name, h, rfl⟩
      exact .named h
    · rintro ⟨⟩
      exact ⟨_, ‹_›, rfl⟩
  | guess path =>
    rw [address?, guessedPage_eq_some_iff]
    constructor
    · exact .guess
    · rintro ⟨⟩
      assumption

theorem page?_eq_findSome? (table entry : Json) (paths : List Text) :
    page? table entry paths = (origins paths).findSome? (address? table entry) := by
  have htable : (paths.map Origin.table).findSome? (address? table entry) =
      paths.findSome? (tablePage? table) := List.findSome?_map
  have hguess : (paths.map Origin.guess).findSome? (address? table entry) =
      paths.findSome? guessedPage := List.findSome?_map
  have hown : [Origin.own "mdn_url", .own "mdnUrl"].findSome? (address? table entry) = ownPage? entry := by
    simp only [List.findSome?_cons, List.findSome?_nil, address?, ownPage?]
    cases textMember? entry "mdn_url" <;> cases textMember? entry "mdnUrl" <;> rfl
  have hnamed : [Origin.named].findSome? (address? table entry) = namedPage? entry := by
    simp only [List.findSome?_cons, List.findSome?_nil, address?]
    cases namedPage? entry <;> rfl
  simp only [origins, List.findSome?_append, htable, hguess, hown, hnamed, Option.or_assoc]
  simp only [page?, Option.orElse_eq_or, Option.orElse_eq_orElse]

theorem exists_ownPage? {url : Text} (h : HasText entry "mdn_url" url ∨ HasText entry "mdnUrl" url) :
    ∃ own, ownPage? entry = some own := by
  rw [← textMember?_eq_some_iff, ← textMember?_eq_some_iff] at h
  unfold ownPage?
  rcases h with h | h
  · exact ⟨url, by rw [h]; rfl⟩
  · rw [h]
    cases textMember? entry "mdn_url" with
    | none => exact ⟨url, rfl⟩
    | some own => exact ⟨own, rfl⟩

/-- The entry's own address goes before all others. -/
theorem page?_of_ownPage? {own : Text} (h : ownPage? entry = some own) : page? table entry paths = some own := by
  rw [page?, h]
  rfl

/-- **The address of a page is the first that is given.** No address is empty; the table gives one where
the names of the path lead to it; and an entry with an address of its own has it whatever the table. -/
theorem page?_first (table entry : Json) (paths : List Text) :
    (∀ url, page? table entry paths = some url ↔
      ∃ before origin after, origins paths = before ++ origin :: after ∧ Gives table entry origin url ∧
        ∀ earlier ∈ before, ∀ other, ¬ Gives table entry earlier other) ∧
    (page? table entry paths = none ↔ ∀ origin ∈ origins paths, ∀ url, ¬ Gives table entry origin url) ∧
    page? table entry paths ≠ some [] ∧
    (∀ path url, tablePage? table path = some url ↔ TableGives table path url) ∧
    ((∃ url, HasText entry "mdn_url" url ∨ HasText entry "mdnUrl" url) →
      ∀ other, page? other entry paths = page? table entry paths) := by
  have hnone : ∀ origin, address? table entry origin = none ↔ ∀ url, ¬ Gives table entry origin url := by
    intro origin
    simp only [Option.eq_none_iff_forall_ne_some, ne_eq, address?_eq_some_iff]
  have hfirst : ∀ url, page? table entry paths = some url ↔
      ∃ before origin after, origins paths = before ++ origin :: after ∧ Gives table entry origin url ∧
        ∀ earlier ∈ before, ∀ other, ¬ Gives table entry earlier other := by
    intro url
    simp only [page?_eq_findSome?, List.findSome?_eq_some_iff, address?_eq_some_iff, hnone]
  refine ⟨hfirst, ?_, ?_, fun path url => tablePage?_eq_some_iff, ?_⟩
  · simp only [page?_eq_findSome?, List.findSome?_eq_none_iff, hnone]
  · intro hempty
    obtain ⟨_, _, _, -, hgives, -⟩ := (hfirst []).mp hempty
    exact hgives.ne_nil rfl
  · rintro ⟨url, hurl⟩ other
    obtain ⟨own, hown⟩ := exists_ownPage? hurl
    rw [page?_of_ownPage? hown, page?_of_ownPage? hown]

/-- An entry with an address of its own. -/
theorem page?_first_own :
    let entry : Json := .obj [("mdnUrl", .str " u ")]
    let table : Json := .obj [("gap", .obj [("__compat", .obj [("mdn_url", .str "t")])])]
    HasText entry "mdnUrl" "u" ∧ tablePage? table "gap" = some ("t" : Text) ∧
      page? table entry ["gap"] = page? .null entry ["gap"] := by
  intro entry table
  have hown : HasText entry "mdnUrl" "u" := textMember?_eq_some_iff.mp (by decide)
  obtain ⟨-, -, -, -, hother⟩ := page?_first .null entry ["gap"]
  exact ⟨hown, by decide, hother ⟨_, .inr hown⟩ table⟩

end WebBaseline.Feature
