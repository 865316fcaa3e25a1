import DbClient.Error

/-! Protocols that a server node can be reached with. -/

namespace DbClient

open Text

/-- A protocol of a server node. -/
inductive Protocol where
  /-- Whatever the node speaks. -/
  | any
  /-- A server in the same process. -/
  | inProcess
  | http
  | grpc
  | tcp
  | postgresql
  | mysql
  deriving DecidableEq, Repr

instance : Enumerated Protocol where
  all := [.any, .inProcess, .http, .grpc, .tcp, .postgresql, .mysql]
  name
    | .any => "any"
    | .inProcess => "local"
    | .http => "http"
    | .grpc => "grpc"
    | .tcp => "tcp"
    | .postgresql => "postgresql"
    | .mysql => "mysql"
  noun := "protocol"

namespace Protocol

/-- The port that servers listen on by default, zero for a protocol without one. -/
def port : Protocol → Nat
  | any => 0
  | inProcess => 0
  | http => 8123
  | grpc => 9100
  | tcp => 9000
  | postgresql => 9005
  | mysql => 9004

/-- The protocol with this name, whatever the case of its letters and the blanks around it. -/
def parse (text : String) : Except Error Protocol :=
  let wanted := trim text.toList
  match (Enumerated.ofCaselessName? wanted : Option Protocol) with
  | some protocol => .ok protocol
  | none => .error (.invalidInput ("Unknown protocol '" ++ .ofList wanted ++ "'"))

end Protocol

end DbClient
