import DbClient.Session.Configuration

/-! What hashes of settings, selectors, versions and configurations are computed from. -/

namespace DbClient

open Setting

def Setting.Id.fingerprint (id : Id) : Fingerprint :=
  [.text id.scope, .text id.key]

/-- What a hash of a value is computed from: its type and its text. -/
def Setting.Value.fingerprint (value : Value) : Fingerprint :=
  [.text (Enumerated.name value.type), .text value.toText]

/-- What a hash of an assignment is computed from: the number of its entries, and the entries
in the order of their settings. -/
def Setting.Assignment.fingerprint (assignment : Assignment) : Fingerprint :=
  .number assignment.size ::
    assignment.entries.flatMap fun entry => entry.1.fingerprint ++ entry.2.fingerprint

def NodeSelector.fingerprint (selector : NodeSelector) : Fingerprint :=
  .number selector.protocols.length ::
    selector.protocols.map (fun protocol => .text (Enumerated.name protocol)) ++
  .number selector.tags.size :: selector.tags.keys.map .text

/-- What a hash of a version is computed from; the number of written parts is left out. -/
def Version.fingerprint (version : Version) : Fingerprint :=
  .number (if version.isLatest then 1 else 0) ::
    version.release.toList.map fun part => .number part.toNat

/-- What a hash of a metric registry is computed from: the object that it is. -/
def MetricRegistry.fingerprint? : Option MetricRegistry → Fingerprint
  | none => [.number 0]
  | some metrics => [.number 1, .number metrics.handle]

def Configuration.fingerprint (configuration : Configuration) : Fingerprint :=
  Assignment.fingerprint configuration.layer.settings ++ configuration.credentials.fingerprint ++
    MetricRegistry.fingerprint? configuration.layer.metrics? ++
    configuration.selector.fingerprint

end DbClient
