import DbClient.Error

/-! Procedures, which change a state and may fail. -/

namespace DbClient

/-- A procedure that changes a state and may fail. What it did before it fails stays done. -/
abbrev Procedure (σ : Type) := ExceptT Error (StateM σ)

/-- What a procedure answers in a state, and the state that it leaves. -/
def Procedure.runIn {σ α : Type} (procedure : Procedure σ α) (state : σ) : Except Error α × σ :=
  procedure.run.run state

end DbClient
