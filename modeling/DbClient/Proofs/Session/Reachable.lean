import DbClient.Proofs.Session.Layering
import DbClient.Proofs.Setting.Assigning

/-! The configurations that a program can come to have. Main statement: `Reachable.type_eq`, by
which every value that one of them sets is of the type of the setting that it is looked up
through. -/

namespace DbClient

open Setting

variable {published : Set Descriptor}

/-- The layers that can be built up from the empty one with published settings. -/
inductive Layer.Reachable (published : Set Descriptor) : Layer → Prop where
  | empty : Reachable published .empty
  | set {layer changed : Layer} {setting : Descriptor} {value : Value}
      (hLayer : Reachable published layer) (hSetting : setting ∈ published)
      (hSet : layer.set setting value = .ok changed) : Reachable published changed
  | setText {layer changed : Layer} {setting : Descriptor} {text : String}
      (hLayer : Reachable published layer) (hSetting : setting ∈ published)
      (hSet : layer.setText setting text = .ok changed) : Reachable published changed
  | overlay {layer : Layer} {settings : Assignment} (hLayer : Reachable published layer)
      (hSettings : settings.Reachable published) : Reachable published (layer.overlay settings)
  | withCredentials {layer : Layer} (hLayer : Reachable published layer)
      (credentials : Credentials) : Reachable published (layer.withCredentials credentials)
  | withSelector {layer : Layer} (hLayer : Reachable published layer) (selector : NodeSelector) :
      Reachable published (layer.withSelector selector)
  | withMetrics {layer : Layer} (hLayer : Reachable published layer) (metrics : MetricRegistry) :
      Reachable published (layer.withMetrics metrics)

/-- The settings of a layer come about by edits. -/
theorem Layer.Reachable.settings {layer : Layer} (hReachable : layer.Reachable published) :
    layer.settings.Reachable published := by
  induction hReachable with
  | empty => exact .empty
  | set _ hSetting hSet ih =>
      obtain ⟨settings, hSettings, rfl⟩ := map_eq_ok_iff.mp hSet
      exact .set ih hSetting hSettings
  | setText _ hSetting hSet ih =>
      obtain ⟨settings, hSettings, rfl⟩ := map_eq_ok_iff.mp hSet
      exact .setText ih hSetting hSettings
  | overlay _ hSettings ih => exact .overlay ih hSettings
  | withCredentials _ _ ih => exact ih
  | withSelector _ _ ih => exact ih
  | withMetrics _ _ ih => exact ih

/-- Layers that are merged are among those given. -/
theorem Layer.mem_of_mem_firstOccurrences {ι : Type} [DecidableEq ι] {layers : List (ι × Layer)}
    {layer : ι × Layer} (hLayer : layer ∈ firstOccurrences layers) : layer ∈ layers := by
  induction layers using List.reverseRecOn with
  | nil => exact hLayer
  | append_singleton layers last ih =>
      rw [firstOccurrences_append_singleton] at hLayer
      split at hLayer
      · exact List.mem_append_left _ (ih hLayer)
      · exact List.mem_append.mpr ((List.mem_append.mp hLayer).imp_left ih)

theorem Layer.reachable_merge {ι : Type} [DecidableEq ι] {layers : List (ι × Layer)}
    (hLayers : ∀ layer ∈ layers, layer.2.settings.Reachable published) :
    (merge layers).settings.Reachable published := by
  refine List.foldlRecOn (firstOccurrences layers) _ .empty fun merged hMerged layer hLayer => ?_
  exact .overlay hMerged (hLayers layer (mem_of_mem_firstOccurrences hLayer))

namespace Configuration

/-- The configurations that can be built from layers, read from properties or from the members of
an object, and merged. -/
inductive Reachable (published : Set Descriptor) : Configuration → Prop where
  | build (env : Environment) {layer : Layer} (hLayer : layer.Reachable published) :
      Reachable published (ofLayer env layer)
  | ofProperties {env : Environment} {catalog : Catalog} {properties : List (String × String)}
      {configuration : Configuration} (hCatalog : catalog.Built published)
      (hRead : ofProperties env catalog properties = .ok configuration) :
      Reachable published configuration
  | ofMembers (env : Environment) {catalog : Catalog} {members : List (String × Json)}
      {settings : Assignment} (hCatalog : catalog.Built published)
      (hRead : catalog.assignMembers members = .ok settings) :
      Reachable published (ofLayer env (.ofSettings settings))
  | merge (env : Environment) {ι : Type} [DecidableEq ι] {sources : List (ι × Configuration)}
      (hSources : ∀ source ∈ sources, Reachable published source.2) :
      Reachable published (merge env sources)

/-- The settings of a configuration come about by edits, however it was made. -/
theorem Reachable.settings {configuration : Configuration}
    (hReachable : configuration.Reachable published) (hPublication : IsPublication published) :
    configuration.layer.settings.Reachable published := by
  induction hReachable with
  | build env hLayer => exact hLayer.settings
  | ofProperties hCatalog hRead =>
      obtain ⟨settings, hSettings, rfl⟩ := map_eq_ok_iff.mp hRead
      exact hCatalog.reachable_assign hPublication hSettings
  | ofMembers env hCatalog hRead => exact hCatalog.reachable_assign hPublication hRead
  | merge env hSources ih =>
      refine Layer.reachable_merge fun layer hLayer => ?_
      obtain ⟨source, hSource, rfl⟩ := List.mem_map.mp hLayer
      exact ih source hSource

/-- A value that is set is of the type of every setting that it can be looked up through. -/
theorem Reachable.type_eq {configuration : Configuration} {setting : Descriptor} {value : Value}
    (hReachable : configuration.Reachable published) (hPublication : IsPublication published)
    (hSetting : setting ∈ published)
    (hGet : configuration.layer.settings.get? setting.id = some value) :
    value.type = setting.type :=
  (hReachable.settings hPublication).isTyped.type_eq hPublication.consistent hSetting hGet

end Configuration

end DbClient
