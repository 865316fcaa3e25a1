import DbClient.Fingerprint
import DbClient.Json.Basic

/-! Credentials of a session. The password is in no text that is made of them. -/

namespace DbClient

structure Credentials where
  user : String
  password : String
  deriving DecidableEq, Repr

namespace Credentials

def describe (credentials : Credentials) : String :=
  "Credentials \x7b user: " ++ Text.quote credentials.user ++ ", password: " ++
    Text.quote "***" ++ " \x7d"

def toJson (credentials : Credentials) : Json :=
  .object [("user", .string credentials.user)]

def fingerprint (credentials : Credentials) : Fingerprint :=
  [.text credentials.user, .text credentials.password]

end Credentials

/-- A registry of metrics that the caller owns. Its handle stands for the object itself, so two
registries are the same when their handles are. -/
structure MetricRegistry where
  handle : Nat
  label : String
  deriving DecidableEq, Repr

end DbClient
