import DbClient.Setting.Descriptor
import DbClient.SortedMap

/-! Assignments of values to settings. A value is checked against the declared type of the
descriptor that it is set through. -/

namespace DbClient.Setting

/-- Which settings are set, and to what. -/
abbrev Assignment := SortedMap Id Value

namespace Assignment

/-- Sets a setting to a value of its declared type. -/
def set (assignment : Assignment) (setting : Descriptor) (value : Value) :
    Except Error Assignment :=
  if value.type = setting.type then .ok (assignment.insert setting.id value)
  else .error (.typeMismatch setting.key setting.type value.type)

/-- Sets a setting to the value that a text denotes. -/
def setText (assignment : Assignment) (setting : Descriptor) (text : String) :
    Except Error Assignment :=
  (setting.parse text).map (assignment.insert setting.id)

/-- The value of a setting: the one that is set, else the effective default. -/
def value (env : Environment) (assignment : Assignment) (setting : Descriptor) : Value :=
  (assignment.get? setting.id).getD (setting.effectiveDefault env)

/-- The value of a setting: the one that is set, else the effective default of another
setting. -/
def valueOr (env : Environment) (assignment : Assignment) (setting fallback : Descriptor) :
    Value :=
  (assignment.get? setting.id).getD (fallback.effectiveDefault env)

end Assignment

end DbClient.Setting
