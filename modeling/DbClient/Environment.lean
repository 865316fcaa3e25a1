/-! What a client reads from the process around it. -/

namespace DbClient

/-- The process environment: its variables, and the offset of local time from UTC in seconds
for a process that names no time zone. -/
structure Environment where
  lookup? : String → Option String
  localOffset : Int

namespace Environment

def empty : Environment := ⟨fun _ => none, 0⟩

def set (env : Environment) (name value : String) : Environment :=
  { env with lookup? := fun other => if other = name then some value else env.lookup? other }

/-- The environment with the variables of a list set; later ones win. -/
def ofList (entries : List (String × String)) : Environment :=
  entries.foldl (fun env pair => env.set pair.1 pair.2) empty

end Environment

end DbClient
