import DbClient.Proofs.Session.Dependence
import DbClient.Proofs.Session.Layering
import DbClient.Proofs.Setting.Tables

/-! When configurations are the same, where settings are kept in hash tables. Main statement:
`same_iff_alike` says that this is an equivalence of what is effective, and that no hash, sorted
listing or answer tells the same configurations apart, however their tables came about. -/

namespace DbClient

open Setting

variable {ι : Type}

/-- Only the object that a metric registry is matters to a hash. -/
theorem MetricRegistry.fingerprint?_congr {left right : Option MetricRegistry}
    (hHandle : left.map handle = right.map handle) : fingerprint? left = fingerprint? right := by
  cases left <;> cases right <;> simp_all [fingerprint?]

/-- Configurations are compared by their settings, their credentials, their registry and their
selector. -/
theorem Configuration.same_eq_true_iff {left right : Configuration} : left.same right = true ↔
    left.layer.settings = right.layer.settings ∧ left.credentials = right.credentials ∧
      left.layer.metrics?.map MetricRegistry.handle =
        right.layer.metrics?.map MetricRegistry.handle ∧
      left.selector = right.selector := by
  simp only [same, Bool.and_eq_true, decide_eq_true_iff, and_assoc]

/-- A hash of a configuration is computed from what makes it the same as another one. -/
theorem Configuration.fingerprint_eq_of_same {left right : Configuration}
    (hSame : left.same right = true) : left.fingerprint = right.fingerprint := by
  obtain ⟨hSettings, hCredentials, hMetrics, hSelector⟩ := same_eq_true_iff.mp hSame
  rw [fingerprint, fingerprint, hSettings, hCredentials, hSelector,
    MetricRegistry.fingerprint?_congr hMetrics]

/-- Reads of what stands in a table, and of effective defaults. -/
def Reads.ofTable (env : Environment) (table : Table) : Reads Id where
  own type setting :=
    (((table.lookup? setting.id).getD (setting.effectiveDefault env)).as? type).getD type.blank
  backed type setting fallback :=
    (((table.lookup? setting.id).getD (fallback.effectiveDefault env)).as? type).getD type.blank

theorem Reads.ofTable_eq_total {table : Table} {settings : Assignment} (env : Environment)
    (hLists : table.Lists settings) : ofTable env table = total env settings := by
  simp only [ofTable, total, Parameters.read, Parameters.readOr, Assignment.value,
    Assignment.valueOr, hLists.lookup]

/-- A layer with a table that holds its settings. -/
structure StoredLayer where
  layer : Layer
  table : Table
  holds : table.Holds layer.settings

namespace StoredLayer

variable {env : Environment} {stored left right : StoredLayer}

/-- What follows from a layer, as it is read from its table. -/
def configuration (env : Environment) (stored : StoredLayer) : Configuration where
  layer := stored.layer
  credentials := stored.layer.credentials?.getD
    (Credentials.assemble (.ofTable env stored.table)).run
  selector := stored.layer.selector?.getD .empty
  parameters := (Parameters.assemble (.ofTable env stored.table) (.ofEnvironment env)).run

/-- Whether two configurations are the same, as it is found from their tables. -/
def same (env : Environment) (left right : StoredLayer) : Bool :=
  left.table.same right.table &&
    (left.configuration env).credentials = (right.configuration env).credentials &&
    left.layer.metrics?.map MetricRegistry.handle =
      right.layer.metrics?.map MetricRegistry.handle &&
    (left.configuration env).selector = (right.configuration env).selector

/-- What a hash of a configuration is computed from, as it is found from its table. -/
def fingerprint (env : Environment) (stored : StoredLayer) : Fingerprint :=
  stored.table.fingerprint ++ (stored.configuration env).credentials.fingerprint ++
    MetricRegistry.fingerprint? stored.layer.metrics? ++
    (stored.configuration env).selector.fingerprint

def withCredentials (stored : StoredLayer) (credentials : Credentials) : StoredLayer :=
  { stored with layer := stored.layer.withCredentials credentials, holds := stored.holds }

def withSelector (stored : StoredLayer) (selector : NodeSelector) : StoredLayer :=
  { stored with layer := stored.layer.withSelector selector, holds := stored.holds }

/-- Tables laid over each other hold what comes of laying their settings over each other. -/
theorem holds_foldl_overlay (objects : ι → StoredLayer) (sources : List ι) {base : Table}
    {settings : Assignment} (hBase : base.Holds settings) :
    Table.Holds (sources.foldl (fun built object => built.overlay (objects object).table) base)
      ((identified (fun object => (objects object).layer) sources).foldl
        (fun merged layer => merged.overlay layer.2.settings) settings) := by
  induction sources generalizing base settings with
  | nil => exact hBase
  | cons object rest ih => exact ih (hBase.overlay (objects object).holds)

/-- Merges layers, with a table that theirs are laid over each other in. -/
def merge [DecidableEq ι] (objects : ι → StoredLayer) (sources : List ι) : StoredLayer where
  layer := .merge (identified (fun object => (objects object).layer) sources)
  table := sources.eraseDups.foldl (fun built object => built.overlay (objects object).table) []
  holds := by
    simpa only [Layer.merge, Layer.firstOccurrences_identified] using
      holds_foldl_overlay objects sources.eraseDups .empty

theorem configuration_eq (env : Environment) (stored : StoredLayer) :
    stored.configuration env = .ofLayer env stored.layer := by
  rw [configuration, Reads.ofTable_eq_total env stored.holds.lists]
  rfl

/-- Merging tables makes the configuration that merging configurations makes. -/
theorem configuration_merge [DecidableEq ι] (env : Environment) (objects : ι → StoredLayer)
    (sources : List ι) : (merge objects sources).configuration env =
      .merge env (identified (fun object => (objects object).configuration env) sources) := by
  have hLayers : (identified (fun object => (objects object).configuration env) sources).map
      (fun source => (source.1, source.2.layer)) =
        identified (fun object => (objects object).layer) sources := by
    simp [identified, configuration]
  rw [configuration_eq, Configuration.merge, hLayers]
  rfl

/-- Tables tell what settings tell. -/
theorem same_eq (env : Environment) (left right : StoredLayer) :
    left.same env right = (left.configuration env).same (right.configuration env) := by
  have hTables : left.table.same right.table =
      decide (left.layer.settings = right.layer.settings) := by
    rw [Bool.eq_iff_iff, decide_eq_true_iff]
    exact Table.Lists.same_iff left.holds.lists right.holds.lists
  rw [same, hTables]
  rfl

/-- A hash does not depend on how a table is laid out. -/
theorem fingerprint_eq (env : Environment) (stored : StoredLayer) :
    stored.fingerprint env = (stored.configuration env).fingerprint := by
  rw [fingerprint, stored.holds.lists.fingerprint_eq]
  rfl

theorem settings_eq_iff : left.layer.settings = right.layer.settings ↔
    ∀ id, left.table.lookup? id = right.table.lookup? id := by
  simp only [left.holds.lists.lookup, right.holds.lists.lookup]
  exact ⟨fun hSettings id => hSettings ▸ rfl, SortedMap.ext_get?⟩

/-- Configurations are the same exactly if the same is found in their tables and the rest is equal.
-/
theorem same_iff : left.same env right = true ↔
    (∀ id, left.table.lookup? id = right.table.lookup? id) ∧
      (left.configuration env).credentials = (right.configuration env).credentials ∧
      left.layer.metrics?.map MetricRegistry.handle =
        right.layer.metrics?.map MetricRegistry.handle ∧
      (left.configuration env).selector = (right.configuration env).selector := by
  rw [← settings_eq_iff, same_eq, Configuration.same_eq_true_iff]
  rfl

/-- Being the same is an equivalence. -/
theorem equivalence_same (env : Environment) :
    Equivalence fun left right : StoredLayer => left.same env right = true where
  refl _ := same_iff.mpr ⟨fun _ => rfl, rfl, rfl, rfl⟩
  symm hSame := by
    obtain ⟨hTables, hCredentials, hMetrics, hSelector⟩ := same_iff.mp hSame
    exact same_iff.mpr
      ⟨fun id => (hTables id).symm, hCredentials.symm, hMetrics.symm, hSelector.symm⟩
  trans hFirst hSecond := by
    obtain ⟨hTables, hCredentials, hMetrics, hSelector⟩ := same_iff.mp hFirst
    obtain ⟨hTables', hCredentials', hMetrics', hSelector'⟩ := same_iff.mp hSecond
    exact same_iff.mpr
      ⟨fun id => (hTables id).trans (hTables' id), hCredentials.trans hCredentials',
        hMetrics.trans hMetrics', hSelector.trans hSelector'⟩

/-- Layers that nothing which is asked of them tells apart. -/
structure Alike (env : Environment) (left right : StoredLayer) : Prop where
  fingerprint : left.fingerprint env = right.fingerprint env
  sorted : left.table.sorted.map Table.entry = right.table.sorted.map Table.entry
  answers : ∀ accessor : Accessor,
    accessor.Agrees (left.configuration env) (right.configuration env)

/-- The same configurations are alike. -/
theorem alike_of_same (hSame : left.same env right = true) : Alike env left right := by
  obtain ⟨hTables, hCredentials, -, hSelector⟩ := same_iff.mp hSame
  have hSettings := settings_eq_iff.mpr hTables
  have hParameters : (left.configuration env).parameters =
      (right.configuration env).parameters := by
    rw [configuration_eq, configuration_eq, Configuration.ofLayer, Configuration.ofLayer,
      hSettings]
  refine ⟨?_, ?_, Accessor.agrees_all_iff.mpr ⟨hCredentials, hSelector, hParameters⟩⟩
  · rw [fingerprint_eq, fingerprint_eq]
    exact Configuration.fingerprint_eq_of_same (same_eq env left right ▸ hSame)
  · rw [left.holds.lists.map_sorted, right.holds.lists.map_sorted, hSettings]

/-- In one environment, being the same is an equivalence. Configurations are the same exactly if
the same is found in their tables, their credentials and selectors in use are the same, and their
metric registry is the same object; credentials and selectors that follow may as well be given.
The same configurations are alike. The sorted listing of a table has the settings of its layer, each
once and in order, and a hash is computed from these. Merged tables hold what merging layers
makes. -/
theorem same_iff_alike (env : Environment) :
    Equivalence (fun left right : StoredLayer => left.same env right = true) ∧
    (∀ left right : StoredLayer, left.same env right = true ↔
      (∀ id, left.table.lookup? id = right.table.lookup? id) ∧
        (left.configuration env).credentials = (right.configuration env).credentials ∧
        left.layer.metrics?.map MetricRegistry.handle =
          right.layer.metrics?.map MetricRegistry.handle ∧
        (left.configuration env).selector = (right.configuration env).selector) ∧
    (∀ left right : StoredLayer, left.same env right = true → Alike env left right) ∧
    (∀ stored : StoredLayer, stored.table.sorted.ids.Pairwise fun first second =>
      compare first second = .lt) ∧
    (∀ stored : StoredLayer,
      stored.table.sorted.map Table.entry = stored.layer.settings.entries ∧
        stored.fingerprint env = (stored.configuration env).fingerprint) ∧
    (∀ stored : StoredLayer,
      stored.same env (stored.withCredentials (stored.configuration env).credentials) = true) ∧
    (∀ stored : StoredLayer, stored.layer.selector? = none →
      stored.same env (stored.withSelector .empty) = true) ∧
    ∀ (ι : Type) [DecidableEq ι] (objects : ι → StoredLayer) (sources : List ι),
      (merge objects sources).configuration env =
        .merge env (identified (fun object => (objects object).configuration env) sources) := by
  refine ⟨equivalence_same env, fun _ _ => same_iff, fun _ _ => alike_of_same,
    fun stored => stored.holds.lists.increasing,
    fun stored => ⟨stored.holds.lists.map_sorted, fingerprint_eq env stored⟩, fun stored => ?_,
    fun stored hNone => ?_, fun _ _ => configuration_merge env⟩
  · exact same_iff.mpr ⟨fun _ => rfl, rfl, rfl, rfl⟩
  · have hSelector : (stored.configuration env).selector = .empty := by
      rw [configuration, hNone, Option.getD_none]
    exact same_iff.mpr ⟨fun _ => rfl, rfl, rfl, hSelector⟩

/-- Two settings in the order in which they were set. -/
def tuned : StoredLayer where
  layer := .ofSettings
    ((SortedMap.empty.insert Builtin.ssl.id (.flag true)).insert Builtin.retry.id (.int 2))
  table := .put Builtin.retry (.int 2) (.put Builtin.ssl (.flag true) [])
  holds := .set (.set .empty rfl) rfl

/-- The same two settings in another order, with credentials that are given. -/
def retuned : StoredLayer where
  layer := tuned.layer.withCredentials (tuned.configuration .empty).credentials
  table := tuned.table.reverse
  holds := .arrange tuned.holds (List.reverse_perm tuned.table).symm

/-- Neither the order of edits nor that credentials are given can be told. -/
theorem alike_tuned_retuned :
    tuned.same .empty retuned = true ∧ Alike .empty tuned retuned := by
  have hTables (id : Id) : tuned.table.lookup? id = retuned.table.lookup? id :=
    (tuned.holds.lists.lookup id).trans (retuned.holds.lists.lookup id).symm
  have hSame : tuned.same .empty retuned = true :=
    same_iff.mpr ⟨hTables, rfl, rfl, rfl⟩
  exact ⟨hSame, (same_iff_alike .empty).2.2.1 tuned retuned hSame⟩

end StoredLayer

end DbClient
