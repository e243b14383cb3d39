import WebBaseline.Feature.Key
import WebBaseline.Proofs.Text.Blank
import WebBaseline.Proofs.Text.Pieces
import WebBaseline.Proofs.Text.Search

/-! The keys of a script path.

A path of an interface gives the name of the interface; a path of a member gives two keys, one behind the
name of the interface and one behind that of the object that a program has of it (`scriptKeys_eq`).
The first letter of an object is never a capital, so a key behind a capital name is one by interface, and
the same path gives the key behind the object (`object_mem_scriptKeys`). A key without a full stop is the
bare name of an interface (`bare_mem_scriptKeys_iff`). -/
namespace WebBaseline.Feature

/-- What a program calls its object of an interface: the name with a small first letter. -/
def objectName (interface : Text) : Text :=
  Text.lower (interface.take 1) ++ interface.drop 1

theorem of_mem_parts {path part : Text} (h : part ∈ parts path) :
    part ≠ [] ∧ ∀ c ∈ part, (c == '.') = false := by
  unfold parts at h
  simp only at h
  split at h
  · cases h
  · rename_i hany
    refine ⟨?_, Text.free_of_mem_splitBy h⟩
    rintro rfl
    exact hany (List.any_eq_true.mpr ⟨[], h, rfl⟩)

/-- The parts of a path without blanks at its ends are the path, joined with full stops. -/
theorem parts_eq_cons_iff {path part : Text} {rest : List Text} (hpath : Text.IsTrimmed path) :
    parts path = part :: rest ↔
      path = Text.join "." (part :: rest) ∧ ∀ other ∈ part :: rest, other ≠ [] ∧ '.' ∉ other := by
  constructor
  · intro h
    refine ⟨?_, fun other hother => ?_⟩
    · have hjoin := Text.join_splitOn '.' path
      unfold parts at h
      rw [hpath.strip_eq] at h
      simp only at h
      split at h
      · cases h
      · rw [← hjoin, h]
        rfl
    · obtain ⟨hne, hfree⟩ := of_mem_parts (h ▸ hother)
      exact ⟨hne, Text.not_mem_iff_free.mpr hfree⟩
  · rintro ⟨rfl, hparts⟩
    have hpieces : Text.splitOn '.' (Text.join "." (part :: rest)) = part :: rest :=
      (Text.splitOn_join '.' part rest).trans (Text.flatMap_splitOn fun other hother => (hparts other hother).2)
    unfold parts
    rw [hpath.strip_eq]
    simp only [hpieces]
    apply if_neg
    intro hany
    obtain ⟨other, hother, hempty⟩ := List.any_eq_true.mp hany
    exact (hparts other hother).1 (List.isEmpty_iff.mp hempty)

theorem splitOn_api (s : Text) : Text.splitOn '.' ("api." ++ s) = ("api" : Text) :: Text.splitOn '.' s :=
  Text.splitBy_piece (a := "api") (Text.forall_mem_of_all (by decide)) (by decide) s

/-- Only paths below `api` give script keys. -/
theorem exists_parts_of_mem_scriptKeys {path k : Text} (h : k ∈ scriptKeys path) :
    ∃ (interface : Text) (members : List Text), parts path = ("api" : Text) :: interface :: members := by
  unfold scriptKeys at h
  split at h
  · rename_i root interface members hparts
    split at h
    · rename_i hroot
      exact ⟨interface, members, hroot ▸ hparts⟩
    · cases h
  · cases h

theorem scriptKeys_eq {path interface : Text} {members : List Text}
    (h : parts path = ("api" : Text) :: interface :: members) :
    scriptKeys path =
      if members = [] then [interface]
      else [objectName interface ++ "." ++ Text.join "." members,
        interface ++ "." ++ Text.join "." members] := by
  unfold scriptKeys
  simp only [h, if_true, List.isEmpty_iff]
  split
  · rfl
  · rename_i hmembers
    rw [Text.join_cons hmembers, Text.join_cons hmembers]
    rfl

/-- The object of an interface is not called by a capital name. -/
theorem exists_objectName_eq {interface : Text} (h : interface ≠ []) :
    ∃ c rest, objectName interface = c :: rest ∧ ¬ Text.IsCapital c := by
  obtain ⟨first, rest, rfl⟩ := List.exists_cons_of_ne_nil h
  have hlower : Text.lower [first] ≠ [] := by simp [Text.lower_eq_nil_iff]
  obtain ⟨c, image, himage⟩ := List.exists_cons_of_ne_nil hlower
  refine ⟨c, image ++ rest, ?_, Text.not_isCapital_of_mem_lower (himage ▸ List.mem_cons_self ..)⟩
  simp [objectName, himage]

/-- A path that gives a key behind a capital name also gives that key behind the object. -/
theorem object_mem_scriptKeys {path name rest : Text} {c : Char} (hfree : '.' ∉ name)
    (hname : name.head? = some c) (hc : Text.IsCapital c)
    (h : name ++ "." ++ rest ∈ scriptKeys path) : objectName name ++ "." ++ rest ∈ scriptKeys path := by
  obtain ⟨interface, members, hparts⟩ := exists_parts_of_mem_scriptKeys h
  have hmem : interface ∈ parts path := by simp [hparts]
  obtain ⟨hne, hinterface⟩ := of_mem_parts hmem
  rw [scriptKeys_eq hparts] at h ⊢
  split at h
  · -- An interface has no dot in its name.
    have hdot : '.' ∈ interface := by
      rw [← List.mem_singleton.mp h]
      simp
    exact absurd (hinterface '.' hdot) (by decide)
  · rename_i hmembers
    rw [if_neg hmembers]
    rcases List.mem_cons.mp h with hkey | hkey
    · obtain ⟨d, image, hobject, hd⟩ := exists_objectName_eq hne
      have hhead := congrArg List.head? hkey
      simp only [hobject, List.append_assoc, List.head?_append, hname, List.cons_append,
        List.head?_cons, Option.some_or, Option.some.injEq] at hhead
      exact absurd hc (hhead ▸ hd)
    · have hkey := List.mem_singleton.mp hkey
      rw [List.append_assoc, List.append_assoc] at hkey
      have hfree : ∀ x ∈ name, (x == '.') = false := fun x hx =>
        beq_eq_false_iff_ne.mpr fun he => hfree (he ▸ hx)
      obtain ⟨rfl, -, rfl⟩ :=
        Text.eq_of_piece_eq (p := (· == '.')) hfree hinterface (by decide) (by decide) hkey
      exact List.mem_cons_self ..

/-! ### Bare names of interfaces -/

theorem parts_of_mem_scriptKeys {path k : Text} (h : k ∈ scriptKeys path) (hdot : '.' ∉ k) :
    parts path = [("api" : Text), k] := by
  obtain ⟨interface, members, hparts⟩ := exists_parts_of_mem_scriptKeys h
  rw [scriptKeys_eq hparts] at h
  split at h
  · rename_i hmembers
    rw [hparts, hmembers, List.mem_singleton.mp h]
  · -- With members, both keys have a full stop behind the name.
    simp only [List.mem_cons, List.not_mem_nil, or_false] at h
    rcases h with rfl | rfl <;> simp at hdot

theorem parts_interface {path k : Text} (hpath : Text.IsTrimmed path) (hne : k ≠ []) (hdot : '.' ∉ k) :
    parts path = [("api" : Text), k] ↔ path = "api." ++ k := by
  rw [parts_eq_cons_iff hpath]
  constructor
  · rintro ⟨h, -⟩
    exact h
  · intro h
    exact ⟨h, List.forall_mem_cons.mpr ⟨by decide, List.forall_mem_singleton.mpr ⟨hne, hdot⟩⟩⟩

/-- The paths that give a key without full stops to the script table. -/
theorem bare_mem_scriptKeys_iff {path k : Text} (hpath : Text.IsTrimmed path) (hne : k ≠ [])
    (hdot : '.' ∉ k) :
    isScriptPath path = true ∧ k ∈ scriptKeys path ↔ path = "api." ++ k := by
  constructor
  · rintro ⟨-, hk⟩
    exact (parts_interface hpath hne hdot).mp (parts_of_mem_scriptKeys hk hdot)
  · rintro rfl
    refine ⟨Text.startsWith_iff.mpr ⟨k, rfl⟩, ?_⟩
    rw [scriptKeys_eq ((parts_interface hpath hne hdot).mpr rfl), if_pos rfl]
    exact List.mem_singleton_self k

end WebBaseline.Feature
