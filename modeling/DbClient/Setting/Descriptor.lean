import DbClient.Environment
import DbClient.Setting.Value

/-! Descriptors of settings. A setting is identified by its scope and its key; its declared
type is the type of its default, so that the two never disagree. -/

namespace DbClient.Setting

/-- What identifies a setting. -/
structure Id where
  scope : String
  key : String
  deriving DecidableEq, Repr

/-- Settings are ordered by scope, then by key. -/
instance : Ord Id where
  compare := compareLex (compareOn Id.scope) (compareOn Id.key)

instance : Std.TransOrd Id :=
  inferInstanceAs (Std.TransCmp (compareLex (compareOn Id.scope) (compareOn Id.key)))

instance : Std.LawfulEqOrd Id where
  eq_of_compare {left right} h := by
    obtain ⟨hScope, hKey⟩ : compare left.scope right.scope = .eq ∧
        compare left.key right.key = .eq := by
      simpa [compare, compareLex, compareOn, Ordering.then_eq_eq] using h
    cases left
    cases right
    simp_all

/-- A named setting with a default value. -/
structure Descriptor where
  scope : String
  key : String
  default : Value
  description : String
  deriving DecidableEq, Repr

namespace Descriptor

def id (setting : Descriptor) : Id := ⟨setting.scope, setting.key⟩

def type (setting : Descriptor) : ValueType := setting.default.type

/-- The name of the environment variable that replaces the default: `CHC_` and the key, with
capitals for small ASCII letters and underscores for points and hyphens. -/
def environmentVariable (setting : Descriptor) : String :=
  "CHC_" ++ setting.key.map fun c => if c = '.' ∨ c = '-' then '_' else c.toUpper

def parse (setting : Descriptor) (text : String) : Except Error Value :=
  (Value.parse text setting.type).mapError fun error =>
    .invalidSettingText setting.key text error.message

/-- The default in an environment: the value of the environment variable where it denotes one,
else the declared default. -/
def effectiveDefault (env : Environment) (setting : Descriptor) : Value :=
  match env.lookup? setting.environmentVariable with
  | none => setting.default
  | some text =>
    match Value.parse text setting.type with
    | .ok value => value
    | .error _ => setting.default

end Descriptor

end DbClient.Setting
