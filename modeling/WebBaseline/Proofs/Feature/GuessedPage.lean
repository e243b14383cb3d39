import Mathlib.Data.List.TakeWhile
import WebBaseline.Proofs.Feature.MarkupKey
import WebBaseline.Proofs.Text.Name

/-! The page that is guessed for a path.

The page of a path is guessed from its first parts (`Guess`), and the key of a page is read off its
address. The address of a property leads back to the property (`pageKey_cssPage`). All other guesses lead
to no key: those of selectors and at-rules have a mark before the name (`pageKey_marked`), and the
addresses of other pages do not pass through the pages of CSS (`pageKey_elsewhere`). So a guessed page has
the key of a property just if it was guessed for that property (`pageKey_guessedPage`). -/
namespace WebBaseline.Feature

/-- The page that is guessed for a path, given by its parts. -/
inductive Guess : List Text → Text → Prop where
  | api (interface : Text) (members : List Text) :
    Guess ("api" :: interface :: members)
      (docsBase ++ "/Web/API/" ++ Text.join "/" (interface :: members.take 1))
  | property (name : Text) (rest : List Text) :
    Guess ("css" :: "properties" :: name :: rest) (cssPage name)
  | selector (name : Text) (rest : List Text) :
    Guess ("css" :: "selectors" :: name :: rest) (cssPage (":" ++ name))
  | atRule (name : Text) (rest : List Text) :
    Guess ("css" :: "at-rules" :: name :: rest) (cssPage ("@" ++ name))
  | element (name : Text) (rest : List Text) :
    Guess ("html" :: "elements" :: name :: rest) (docsBase ++ "/Web/HTML/Element/" ++ name)
  | globalAttribute (name : Text) (rest : List Text) :
    Guess ("html" :: "global_attributes" :: name :: rest)
      (docsBase ++ "/Web/HTML/Global_attributes/" ++ name)

theorem guessedPage_eq_some_iff {path url : Text} :
    guessedPage path = some url ↔ Guess (parts path) url := by
  constructor
  · fun_cases guessedPage path with
    | case1 interface members hparts =>
      rintro ⟨⟩
      exact hparts ▸ .api interface members
    | case3 name rest _ hparts =>
      rintro ⟨⟩
      exact hparts ▸ .property name rest
    | case4 name rest _ _ hparts =>
      rintro ⟨⟩
      exact hparts ▸ .selector name rest
    | case5 name rest _ _ _ hparts =>
      rintro ⟨⟩
      exact hparts ▸ .atRule name rest
    | case7 name rest _ _ hparts =>
      rintro ⟨⟩
      exact hparts ▸ .element name rest
    | case8 name rest _ _ _ hparts =>
      rintro ⟨⟩
      exact hparts ▸ .globalAttribute name rest
    | case2 | case6 | case9 | case10 | case11 => exact nofun
  · unfold guessedPage
    generalize parts path = ps
    intro h
    cases h <;> rfl

theorem Guess.ne_nil {ps : List Text} {url : Text} (h : Guess ps url) : url ≠ [] := by
  cases h <;> exact List.cons_ne_nil _ _

/-! ### Pages of CSS -/

variable {path : Text}

/-- A page of CSS whose name is one word has the key that its name in lower case is, if that can be the name
of a property. -/
theorem pageKey_cssPage {name : Text} (hname : ∀ c ∈ name, Text.isBlank c = false ∧ c ≠ '#' ∧ c ≠ '?')
    {k : Text} : pageKey path (some (cssPage name)) = some k ↔
      path.startsWith "css." = true ∧ IsPropertyName (Text.lower name) ∧ k = Text.lower name := by
  have hcut : Text.cutAt? "/docs/Web/CSS/" (cssPage name) =
      some (("https://developer.mozilla.org/en-US" : Text), name) := by
    have hbase : Text.cutAt? "/docs/Web/CSS/" (docsBase ++ "/Web/CSS/") =
        some (("https://developer.mozilla.org/en-US" : Text), []) := by decide
    exact Text.cutAt?_append (List.cons_ne_nil _ _) hbase name
  have hfragment : name.takeWhile (· != '#') = name := by
    rw [List.takeWhile_eq_self_iff]
    exact fun c hc => bne_iff_ne.mpr (hname c hc).2.1
  have hquery : name.takeWhile (· != '?') = name := by
    rw [List.takeWhile_eq_self_iff]
    exact fun c hc => bne_iff_ne.mpr (hname c hc).2.2
  have hstrip : Text.strip name = name :=
    (Text.isTrimmed_of_forall fun c hc => (hname c hc).1).strip_eq
  simp only [pageKey, Option.bind_some, hcut, hfragment, hquery, hstrip, isPageName_iff,
    Option.ite_none_right_eq_some, Option.some.injEq]
  exact and_congr_right fun _ => and_congr_right fun _ => eq_comm

/-- A mark before the name is no part of a property's name. -/
theorem pageKey_marked {mark : Char} (hmark : Text.IsLow mark)
    (hno : mark ≠ '-' ∧ ¬ ('a' ≤ mark ∧ mark ≤ 'z')) {name : Text}
    (hname : ∀ c ∈ mark :: name, Text.isBlank c = false ∧ c ≠ '#' ∧ c ≠ '?') :
    pageKey path (some (cssPage (mark :: name))) = none := by
  rw [Option.eq_none_iff_forall_ne_some]
  intro k hk
  obtain ⟨-, ⟨sign, first, rest, heq, hsign, hfirst, -⟩, -⟩ := (pageKey_cssPage hname).mp hk
  rw [Text.lower, Text.lowerAfter_of_isLow hmark] at heq
  rcases hsign with rfl | rfl
  · exact hno.2 ((List.cons.inj heq).1 ▸ hfirst)
  · exact hno.1 (List.cons.inj heq).1

/-! ### Pages elsewhere -/

/-- An address with the mark of the pages of CSS passes through these directories. -/
theorem infix_of_mark {url : Text} (h : ("/docs/Web/CSS/" : Text) <:+: url) :
    (["docs", "Web", "CSS"] : List Text) <:+: url.splitOn '/' := by
  obtain ⟨before, after, rfl⟩ := h
  refine ⟨Text.splitOn '/' before, Text.splitOn '/' after, ?_⟩
  have hurl : before ++ "/docs/Web/CSS/" ++ after = before ++ '/' :: ("docs/Web/CSS" ++ '/' :: after) := by simp
  have hdirs : Text.splitOn '/' "docs/Web/CSS" = [("docs" : Text), "Web", "CSS"] := by decide
  rw [hurl, Text.splitOn_append, Text.splitOn_append, hdirs, List.append_assoc]

/-- The directories that an address passes through, below a root that is given by its own. -/
theorem splitOn_address (root : Text) {name : Text} {names : List Text}
    (h : ∀ part ∈ name :: names, '/' ∉ part) :
    Text.splitOn '/' (root ++ '/' :: Text.join "/" (name :: names)) =
      root.splitOn '/' ++ name :: names := by
  have hnames : Text.splitOn '/' (Text.join "/" (name :: names)) = name :: names :=
    (Text.splitOn_join '/' name names).trans (Text.flatMap_splitOn h)
  rw [Text.splitOn_append, hnames]

/-- The directories of the documentation. -/
def docsDirectories : List Text :=
  ["https:", "", "developer.mozilla.org", "en-US", "docs", "Web"]

/-- Behind `docs` and `Web` stands the topic, and behind the topic is no room for all three. -/
theorem topic_of_directories {topic : Text} {names : List Text} (hlen : names.length ≤ 2)
    (h : (["docs", "Web", "CSS"] : List Text) <:+: docsDirectories ++ topic :: names) :
    topic = "CSS" ∨ topic = "docs" := by
  -- The three names start at `docs`, with the topic for the third, or at the topic and two names behind it.
  match names with
  | [] | [_] =>
    simp [docsDirectories, List.infix_cons_iff] at h
    exact .inl h.symm
  | [_, _] =>
    simp [docsDirectories, List.infix_cons_iff] at h
    exact h.imp Eq.symm fun h => h.1.symm

/-- The pages of another topic have no keys. -/
theorem pageKey_elsewhere {root topic name url : Text} {below names : List Text}
    (hroot : root.splitOn '/' = docsDirectories ++ topic :: below) (htopic : topic ≠ "CSS" ∧ topic ≠ "docs")
    (hnames : ∀ part ∈ name :: names, '/' ∉ part) (hlen : (below ++ name :: names).length ≤ 2)
    (hurl : url = root ++ '/' :: Text.join "/" (name :: names)) :
    pageKey path (some url) = none := by
  have hmark : ("/docs/Web/CSS/" : Text) ≠ [] := by decide
  have hcut : Text.cutAt? "/docs/Web/CSS/" url = none := by
    rw [Text.cutAt?_eq_none_iff hmark]
    intro hinfix
    have hdirs := infix_of_mark hinfix
    rw [hurl, splitOn_address _ hnames, hroot, List.append_assoc, List.cons_append] at hdirs
    exact (topic_of_directories hlen hdirs).elim htopic.1 htopic.2
  unfold pageKey
  split
  · rw [Option.bind_some, hcut]
  · rfl

/-! ### Keys of guessed pages -/

/-- A letter, a digit, a hyphen or a low line. -/
def isSlugChar (c : Char) : Bool :=
  Text.isNamePart c || c == '_'

/-- The parts of a path behind the root and the category; a script path has no category. -/
def namingParts (ps : List Text) : List Text :=
  ps.drop (if ps.head? = some ("api" : Text) then 1 else 2)

theorem of_isSlugChar {c : Char} (h : isSlugChar c = true) :
    (Text.isBlank c = false ∧ c ≠ '#' ∧ c ≠ '?') ∧ c ≠ '/' := by
  have hblank : Text.isBlank c = false := Text.not_isBlank_of (p := isSlugChar) (by decide +kernel) h
  refine ⟨⟨hblank, ?_, ?_⟩, ?_⟩ <;> rintro rfl <;> cases h

/-- A page that is guessed for something else than a property has no key. -/
theorem pageKey_eq_none_of_guess {ps : List Text} {url : Text} (h : Guess ps url)
    (hps : ∀ part ∈ namingParts ps, ∀ c ∈ part, isSlugChar c = true)
    (hother : ∀ name rest, ps ≠ ("css" : Text) :: "properties" :: name :: rest) :
    pageKey path (some url) = none := by
  have hslug : ∀ part ∈ namingParts ps, ∀ c ∈ part, Text.isBlank c = false ∧ c ≠ '#' ∧ c ≠ '?' :=
    fun part hpart c hc => (of_isSlugChar (hps part hpart c hc)).1
  have hslash : ∀ part ∈ namingParts ps, '/' ∉ part := fun part hpart hmem =>
    (of_isSlugChar (hps part hpart '/' hmem)).2 rfl
  have hsingle : ∀ name ∈ namingParts ps, ∀ part ∈ [name], '/' ∉ part := fun name hname =>
    List.forall_mem_singleton.mpr (hslash name hname)
  cases h with
  | property name rest => exact absurd rfl (hother name rest)
  | selector name rest =>
    have hname := hslug name (List.mem_cons_self ..)
    exact pageKey_marked (by decide) (by decide) (List.forall_mem_cons.mpr ⟨by decide, hname⟩)
  | atRule name rest =>
    have hname := hslug name (List.mem_cons_self ..)
    exact pageKey_marked (by decide) (by decide) (List.forall_mem_cons.mpr ⟨by decide, hname⟩)
  | api interface members =>
    have hroot : Text.splitOn '/' (docsBase ++ "/Web/API") = docsDirectories ++ ("API" : Text) :: [] := by decide
    have hnames : ∀ part ∈ interface :: members.take 1, '/' ∉ part := fun part hpart =>
      hslash part (List.cons_subset_cons interface (List.take_subset 1 members) hpart)
    have hbase : docsBase ++ "/Web/API/" = docsBase ++ "/Web/API" ++ ['/'] := by decide
    apply pageKey_elsewhere hroot (by decide) hnames (Nat.succ_le_succ (List.length_take_le 1 members))
    rw [hbase, List.append_assoc, List.singleton_append]
  | element name rest =>
    have hroot : Text.splitOn '/' (docsBase ++ "/Web/HTML/Element") =
        docsDirectories ++ ("HTML" : Text) :: ["Element"] := by decide
    have hbase : docsBase ++ "/Web/HTML/Element/" = docsBase ++ "/Web/HTML/Element" ++ ['/'] := by decide
    apply pageKey_elsewhere hroot (by decide) (hsingle name (List.mem_cons_self ..)) (Nat.le_refl 2)
    rw [hbase, List.append_assoc, List.singleton_append, Text.join]
  | globalAttribute name rest =>
    have hroot : Text.splitOn '/' (docsBase ++ "/Web/HTML/Global_attributes") =
        docsDirectories ++ ("HTML" : Text) :: ["Global_attributes"] := by decide
    have hbase : docsBase ++ "/Web/HTML/Global_attributes/" =
        docsBase ++ "/Web/HTML/Global_attributes" ++ ['/'] := by decide
    apply pageKey_elsewhere hroot (by decide) (hsingle name (List.mem_cons_self ..)) (Nat.le_refl 2)
    rw [hbase, List.append_assoc, List.singleton_append, Text.join]

theorem markupKeys_property {name : Text} (hne : name ≠ []) (hdot : '.' ∉ name)
    (hblank : ∀ c ∈ name, Text.isBlank c = false) :
    markupKeys ("css.properties." ++ name) = [Text.lower name] := by
  have hlead : ∀ c ∈ ("css.properties." : Text), Text.isBlank c = false := Text.forall_mem_of_all (by decide)
  have hpath : Text.IsTrimmed ("css.properties." ++ name) :=
    Text.isTrimmed_of_forall (List.forall_mem_append.mpr ⟨hlead, hblank⟩)
  have hparts : parts ("css.properties." ++ name) = [("css" : Text), "properties", name] := by
    have hfixed : ∀ part ∈ [("css" : Text), "properties"], part ≠ [] ∧ '.' ∉ part := by decide
    have hall : ∀ part ∈ [("css" : Text), "properties"] ++ [name], part ≠ [] ∧ '.' ∉ part :=
      List.forall_mem_append.mpr ⟨hfixed, List.forall_mem_singleton.mpr ⟨hne, hdot⟩⟩
    exact (parts_eq_cons_iff hpath).mpr ⟨rfl, hall⟩
  have hcss : Text.lower "css" = "css" := by decide
  have hproperties : Text.lower "properties" = "properties" := by decide
  rw [markupKeys, hparts, List.map_cons, List.map_cons, hcss, hproperties]
  rfl

/-- **A guessed page has the key of the property that it was guessed for.** The names in `guess` are
written with slug characters; then its page gives a path of CSS a key just if `guess` is one of a property
whose name in lower case can be the name of a page, and the key is the one of that property. -/
theorem pageKey_guessedPage {guess : Text}
    (hguess : ∀ part ∈ namingParts (parts guess), ∀ c ∈ part, isSlugChar c = true) (path k : Text) :
    (pageKey path (guessedPage guess) = some k ↔
      ("css." : Text) <+: path ∧ ∃ name rest, parts guess = ("css" : Text) :: "properties" :: name :: rest ∧
        IsPropertyName (Text.lower name) ∧ k = Text.lower name) ∧
    ∀ name rest, parts guess = ("css" : Text) :: "properties" :: name :: rest →
      markupKeys ("css.properties." ++ name) = [Text.lower name] := by
  have hmem : ∀ name rest, parts guess = ("css" : Text) :: "properties" :: name :: rest →
      (name ≠ [] ∧ '.' ∉ name) ∧ ∀ c ∈ name, Text.isBlank c = false ∧ c ≠ '#' ∧ c ≠ '?' := by
    intro name rest hparts
    have hname : name ∈ parts guess := by simp [hparts]
    obtain ⟨hne, hdot⟩ := of_mem_parts hname
    have hnaming : name ∈ namingParts (parts guess) := by
      rw [hparts]
      exact List.mem_cons_self ..
    refine ⟨⟨hne, Text.not_mem_iff_free.mpr hdot⟩, fun c hc => ?_⟩
    exact (of_isSlugChar (hguess name hnaming c hc)).1
  refine ⟨?_, fun name rest hparts => ?_⟩
  · rw [← Text.startsWith_eq_true_iff]
    by_cases hproperty : ∃ name rest, parts guess = ("css" : Text) :: "properties" :: name :: rest
    · obtain ⟨name, rest, hparts⟩ := hproperty
      have hpage : guessedPage guess = some (cssPage name) :=
        guessedPage_eq_some_iff.mpr (hparts ▸ .property name rest)
      rw [hpage, pageKey_cssPage (hmem name rest hparts).2]
      constructor
      · rintro ⟨hpath, hk⟩
        exact ⟨hpath, name, rest, hparts, hk⟩
      · rintro ⟨hpath, name', rest', hparts', hk⟩
        have heq := hparts.symm.trans hparts'
        obtain ⟨rfl, -⟩ := List.cons.inj (List.cons.inj (List.cons.inj heq).2).2
        exact ⟨hpath, hk⟩
    · have hother : ∀ name rest, parts guess ≠ ("css" : Text) :: "properties" :: name :: rest :=
        fun name rest hparts => hproperty ⟨name, rest, hparts⟩
      have hnone : pageKey path (guessedPage guess) = none := by
        cases hpage : guessedPage guess with
        | none => exact ite_self none
        | some url => exact pageKey_eq_none_of_guess (guessedPage_eq_some_iff.mp hpage) hguess hother
      rw [hnone]
      exact iff_of_false nofun fun ⟨_, name, rest, hparts, _⟩ => hother name rest hparts
  · obtain ⟨⟨hne, hdot⟩, hclean⟩ := hmem name rest hparts
    exact markupKeys_property hne hdot fun c hc => (hclean c hc).1

/-- The page guessed for a value of a property has the key of the property. -/
theorem pageKey_guessedPage_wrap :
    let guess : Text := "css.properties.Text-Wrap.balance"
    (∀ part ∈ namingParts (parts guess), ∀ c ∈ part, isSlugChar c = true) ∧
      pageKey "css.types.wrap" (guessedPage guess) = some "text-wrap" ∧
      markupKeys "css.properties.Text-Wrap" = [("text-wrap" : Text)] := by
  intro guess
  have hguess : ∀ part ∈ namingParts (parts guess), ∀ c ∈ part, isSlugChar c = true := by
    have hall : ∀ part ∈ namingParts (parts guess), part.all isSlugChar = true := by decide
    exact fun part hpart => List.all_eq_true.mp (hall part hpart)
  have hparts : parts guess = [("css" : Text), "properties", "Text-Wrap", "balance"] := by decide
  obtain ⟨hpage, hmarkup⟩ := pageKey_guessedPage hguess "css.types.wrap" "text-wrap"
  refine ⟨hguess, hpage.mpr ⟨by decide, _, _, hparts, by decide, by decide⟩, ?_⟩
  exact (hmarkup _ _ hparts).trans (by decide)

end WebBaseline.Feature
