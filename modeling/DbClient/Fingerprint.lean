/-! Fingerprints: the sequence of items that a hash of a value is computed from. Values that
are equal have equal fingerprints. -/

namespace DbClient

inductive FingerprintItem where
  | text (value : String)
  | number (value : Int)
  deriving DecidableEq, Repr

/-- A sequence of items that a hash is computed from. -/
abbrev Fingerprint := List FingerprintItem

end DbClient
