import DbClient.Setting.Catalog

/-! Discovery of contributed settings. It never fails its caller: when the clients cannot be
listed, or one of them crashes, the catalog holds the built-in settings alone. -/

namespace DbClient.Setting

/-- What a client implementation says when it is asked for its settings. -/
inductive Contribution where
  /-- It has no settings of its own. -/
  | absent
  /-- It refers to the table of built-in settings itself. -/
  | builtinTable
  | declared (settings : List Descriptor)
  | crash

/-- What comes of listing the client implementations. -/
inductive Discovery where
  | clients (contributions : List Contribution)
  | failed (error : Error)
  | crashed

namespace Contribution

/-- The settings that a contribution adds, unless it crashes. -/
def settings? : Contribution → Option (List Descriptor)
  | absent => some []
  | builtinTable => some []
  | declared settings => some settings
  | crash => none

end Contribution

/-- The catalog of everything that was discovered; later clients win. -/
def Catalog.discover : Discovery → Catalog
  | .failed _ => builtin
  | .crashed => builtin
  | .clients contributions =>
    match contributions.mapM Contribution.settings? with
    | none => builtin
    | some sets => sets.foldl registerAll builtin

end DbClient.Setting
