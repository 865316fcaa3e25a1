import DbClient.Text.AsciiCase
import DbClient.Text.Blank

/-! Enumerated types, whose variants are listed and have canonical names. -/

namespace DbClient

/-- A type with finitely many variants, each known by a canonical name. -/
class Enumerated (α : Type) where
  /-- The variants in declaration order. -/
  all : List α
  /-- The canonical name of a variant. -/
  name : α → String
  /-- What one calls a variant of this type in a message. -/
  noun : String

namespace Enumerated

variable {α : Type} [Enumerated α]

def ofName? (text : String) : Option α :=
  all.find? fun variant => name variant = text

/-- The variant with this name in any case of its letters. -/
def ofCaselessName? (text : List Char) : Option α :=
  all.find? fun variant => Text.sameName (name variant).toList text

end Enumerated

end DbClient
