import WebBaseline.Proofs.CommandLine.Loading

/-! What a load publishes.

A load reads settings, features and a compatibility table, one after the other, and builds the index only when
it has all of them (`Loads`). `loads_iff` says that nothing is published before that, and the commands publish
nothing more. -/
namespace WebBaseline.CommandLine

/-- The compatibility table that a load reads after the features, if one is asked for. -/
def compatTable (files : Files) (read : Text → Reading Json) (compat : Option Text) (net : Download.Network) :
    Except Failure Json :=
  match compat with
  | none | some [] => .ok .null
  | some source => (Dataset.load files source net read).1.bind (Dataset.table source)

/-- Everything that a load reads is there and in order, and gives this index. -/
inductive Loads (world : World) (sources : Sources) (severity : Option Text) : Index → Prop
  | intro (settings : Settings) (payload table : Json) (net : Download.Network) (dataset : Feature.Dataset)
    (hsettings : world.settingsOf sources severity = .ok settings)
    (hpayload : Dataset.load world.files sources.features world.net world.readJson = (.ok payload, net))
    (hdataset : Dataset.features sources.features payload = .ok dataset)
    (htable : compatTable world.files world.readJson sources.compat net = .ok table) :
    Loads world sources severity (Index.build world.renderer table dataset settings.coreProperties)

section Datasets

variable {files : Files} {read : Text → Reading Json} {sources : Sources} {net : Download.Network}

/-- The compatibility table is read if the features are, and both make up what is loaded. -/
theorem loadDatasets_eq_bind :
    (loadDatasets files read sources net).1 =
      ((Dataset.load files sources.features net read).1.bind (Dataset.features sources.features)).bind
        fun dataset => (compatTable files read sources.compat
          (Dataset.load files sources.features net read).2).map (⟨·, dataset⟩) := by
  unfold loadDatasets compatTable
  cases hfeatures :
      (Dataset.load files sources.features net read).1.bind (Dataset.features sources.features) with
  | error f =>
    simp only [hfeatures]
    rfl
  | ok dataset =>
    simp only [hfeatures]
    rcases sources.compat with _ | ⟨_ | ⟨c, source⟩⟩ <;> rfl

theorem loadDatasets_eq_ok_iff {loaded : Loaded} :
    (loadDatasets files read sources net).1 = .ok loaded ↔
      ∃ payload after, Dataset.load files sources.features net read = (.ok payload, after) ∧
        Dataset.features sources.features payload = .ok loaded.dataset ∧
        compatTable files read sources.compat after = .ok loaded.table := by
  rw [loadDatasets_eq_bind, bind_eq_ok_iff]
  constructor
  · rintro ⟨dataset, hdataset, htable⟩
    obtain ⟨payload, hpayload, hdataset⟩ := bind_eq_ok_iff.mp hdataset
    obtain ⟨table, hcompat, rfl⟩ := map_eq_ok_iff.mp htable
    exact ⟨payload, _, Prod.ext hpayload rfl, hdataset, hcompat⟩
  · rintro ⟨payload, after, hpayload, hdataset, htable⟩
    rw [hpayload]
    exact ⟨loaded.dataset, hdataset, map_eq_ok_iff.mpr ⟨loaded.table, htable, rfl⟩⟩

end Datasets

/-- A load succeeds just if all that it reads is in order, and has then published the index. -/
theorem loads_iff {world : World} {sources : Sources} {severity : Option Text} {index : Index} :
    Loads world sources severity index ↔
      ∃ settings, (loadIndex world sources severity).2 = .ok settings ∧
        (loadIndex world sources severity).1.published = index := by
  unfold loadIndex
  constructor
  · rintro ⟨settings, payload, table, net, dataset, hsettings, hpayload, hdataset, htable⟩
    have hloaded : (loadDatasets world.files world.readJson sources _).1 = .ok ⟨table, dataset⟩ :=
      loadDatasets_eq_ok_iff.mpr ⟨payload, net, hpayload, hdataset, htable⟩
    rw [hsettings]
    simp only [hloaded]
    exact ⟨settings, rfl, trivial⟩
  · intro h
    split at h
    · obtain ⟨settings, hok, -⟩ := h
      cases hok
    · rename_i settings hsettings
      simp only at h
      split at h
      · obtain ⟨settings, hok, -⟩ := h
        cases hok
      · rename_i loaded hloaded
        obtain ⟨_, -, rfl⟩ := h
        obtain ⟨payload, net, hpayload, hdataset, htable⟩ := loadDatasets_eq_ok_iff.mp hloaded
        exact ⟨settings, payload, _, net, _, hsettings, hpayload, hdataset, htable⟩

theorem published_failWith (run : Run) (f : Failure) : (run.failWith f).published = run.published := by
  unfold Run.failWith
  split <;> rfl

/-- After loading, a scan publishes nothing more. -/
theorem published_runScan (world : World) (request : ScanRequest) :
    (runScan world request).published = (loadIndex world request.sources request.severity).1.published := by
  unfold runScan
  obtain ⟨run, loaded⟩ := loadIndex world request.sources request.severity
  cases loaded with
  | error f => exact published_failWith run f
  | ok settings =>
    simp only
    split
    · exact published_failWith _ _
    · split <;> rfl

/-- After loading, a look-up publishes nothing more. -/
theorem published_showToken (world : World) (request : LookupRequest) (token : Text) :
    (showToken world request token).published = (loadIndex world request.sources none).1.published := by
  unfold showToken
  obtain ⟨run, loaded⟩ := loadIndex world request.sources none
  cases loaded with
  | error f => exact published_failWith run f
  | ok settings =>
    simp only
    split <;> rfl

theorem published_of_error {world : World} {sources : Sources} {severity : Option Text} {f : Failure}
    (h : (loadIndex world sources severity).2 = .error f) :
    (loadIndex world sources severity).1.published = {} := by
  unfold loadIndex at h ⊢
  split
  · rfl
  · rename_i settings hsettings
    rw [hsettings] at h
    simp only at h ⊢
    split
    · rfl
    · rename_i loaded hloaded
      rw [hloaded] at h
      cases h

end WebBaseline.CommandLine
