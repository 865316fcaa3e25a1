import DbClient.Node.Selector
import DbClient.Session.Credentials
import DbClient.Session.Parameters
import DbClient.Setting.Catalog

/-! Configurations of a session. A layer holds what was given explicitly; a configuration is a
layer together with everything that follows from it in an environment. Layers are merged: the
last one wins for settings, and the first one that has them for credentials, selector and
metric registry. -/

namespace DbClient

open Setting

/-- What is given explicitly: settings, and at most one of each singleton. -/
structure Layer where
  settings : Assignment
  credentials? : Option Credentials
  selector? : Option NodeSelector
  metrics? : Option MetricRegistry
  deriving DecidableEq

namespace Layer

def empty : Layer := ⟨.empty, none, none, none⟩

def ofSettings (settings : Assignment) : Layer := { empty with settings }

def set (layer : Layer) (setting : Descriptor) (value : Value) : Except Error Layer :=
  (Assignment.set layer.settings setting value).map fun settings => { layer with settings }

/-- The layer with one setting set to what a text denotes. -/
def setText (layer : Layer) (setting : Descriptor) (text : String) : Except Error Layer :=
  (Assignment.setText layer.settings setting text).map fun settings => { layer with settings }

def overlay (layer : Layer) (settings : Assignment) : Layer :=
  { layer with settings := layer.settings.overlay settings }

def withCredentials (layer : Layer) (credentials : Credentials) : Layer :=
  { layer with credentials? := some credentials }

def withSelector (layer : Layer) (selector : NodeSelector) : Layer :=
  { layer with selector? := some selector }

def withMetrics (layer : Layer) (metrics : MetricRegistry) : Layer :=
  { layer with metrics? := some metrics }

/-- The layers of a list, each object where it occurs first. -/
def firstOccurrences {ι : Type} [DecidableEq ι] (layers : List (ι × Layer)) :
    List (ι × Layer) :=
  layers.foldl
    (fun kept layer => if layer.1 ∈ kept.map Prod.fst then kept else kept ++ [layer]) []

/-- Merges layers, each given with the object that it is. An object that occurs again is not
applied again, whereas an equal one is. -/
def merge {ι : Type} [DecidableEq ι] (layers : List (ι × Layer)) : Layer where
  settings := (firstOccurrences layers).foldl
    (fun merged layer => merged.overlay layer.2.settings) .empty
  credentials? := layers.findSome? fun layer => layer.2.credentials?
  selector? := layers.findSome? fun layer => layer.2.selector?
  metrics? := layers.findSome? fun layer => layer.2.metrics?

end Layer

/-- A layer and what follows from it. -/
structure Configuration where
  layer : Layer
  /-- The credentials in use: the explicit ones, or the user and password that are set. -/
  credentials : Credentials
  /-- The selector in use: the explicit one, or the one that accepts everything. -/
  selector : NodeSelector
  parameters : Parameters
  deriving DecidableEq

namespace Configuration

/-- The credentials that the settings for user and password make. -/
def settingCredentials (env : Environment) (settings : Assignment) : Credentials :=
  ⟨Parameters.read .text env settings Fallback.user,
    Parameters.read .text env settings Fallback.password⟩

/-- The configuration that follows from a layer. -/
def ofLayer (env : Environment) (layer : Layer) : Configuration where
  layer
  credentials := layer.credentials?.getD (settingCredentials env layer.settings)
  selector := layer.selector?.getD .empty
  parameters := .derive env layer.settings

def default (env : Environment) : Configuration :=
  ofLayer env .empty

def merge {ι : Type} [DecidableEq ι] (env : Environment) (sources : List (ι × Configuration)) :
    Configuration :=
  ofLayer env (.merge (sources.map fun source => (source.1, source.2.layer)))

/-- The configuration that properties denote; unknown keys are ignored. -/
def ofProperties (env : Environment) (catalog : Catalog) (properties : List (String × String)) :
    Except Error Configuration :=
  (catalog.assign properties).map fun settings => ofLayer env (.ofSettings settings)

/-- The texts of all settings that are set, by key. Of settings with the same key in several
scopes the one in the last scope is given. -/
def toProperties (configuration : Configuration) : PairMap :=
  .ofList (configuration.layer.settings.entries.map fun entry => (entry.1.key, entry.2.toText))

def isSet (configuration : Configuration) (setting : Descriptor) : Bool :=
  configuration.layer.settings.contains setting.id

/-- The value of a setting, or its default in the environment. -/
def value (env : Environment) (configuration : Configuration) (setting : Descriptor) : Value :=
  Assignment.value env configuration.layer.settings setting

/-- The value of a setting, or the default of another one in the environment. -/
def valueOr (env : Environment) (configuration : Configuration)
    (setting fallback : Descriptor) : Value :=
  Assignment.valueOr env configuration.layer.settings setting fallback

/-- The value of a setting, or the one that another configuration has for it. -/
def valueOrIn (env : Environment) (configuration fallback : Configuration)
    (setting : Descriptor) : Value :=
  (configuration.layer.settings.get? setting.id).getD (fallback.value env setting)

/-- The value of a setting at a type, which has to be its declared one. -/
def valueAs (type : ValueType) (env : Environment) (configuration : Configuration)
    (setting : Descriptor) : Except Error type.Carrier :=
  let mismatch := Error.typeMismatch setting.key setting.type type
  if type = setting.type then
    match (configuration.value env setting).as? type with
    | some element => .ok element
    | none => .error mismatch
  else .error mismatch

/-- Whether two configurations are the same: they set the same settings, use the same
credentials and the same selector, and have the same metric registry, whether these were given
or follow. -/
def same (left right : Configuration) : Bool :=
  left.layer.settings = right.layer.settings && left.credentials = right.credentials &&
    left.layer.metrics?.map MetricRegistry.handle =
      right.layer.metrics?.map MetricRegistry.handle &&
    left.selector = right.selector

end Configuration

end DbClient
