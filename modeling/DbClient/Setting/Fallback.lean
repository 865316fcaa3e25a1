import DbClient.Setting.Descriptor

/-! Settings whose defaults stand in for those of built-in settings that are not set, and the
name and password that credentials are made from. -/

namespace DbClient.Setting.Fallback

/-- A setting in the scope of the fallbacks. -/
def fallback (key : String) (default : Value) (description : String) : Descriptor :=
  ⟨"defaults", key, default, description⟩

def async : Descriptor := fallback "async" (.flag true)
  "Default async mode."

def database : Descriptor := fallback "database" (.text "default")
  "Default database."

def format : Descriptor := fallback "format" (.format .tabSeparated)
  "Default data format."

def buffering : Descriptor := fallback "buffering" (.buffering .resourceEfficient)
  "Default buffering mode for both request and response."

def serverTimeZone : Descriptor := fallback "server_time_zone" (.text "UTC")
  "Server time zone assumed until the server reports one."

def serverVersion : Descriptor := fallback "server_version" (.text "latest")
  "Server version assumed until the server reports one."

def user : Descriptor := fallback "user" (.text "default")
  "Default user name."

def password : Descriptor := fallback "password" (.text "")
  "Default password."

/-- The fallbacks in declaration order. -/
def all : List Descriptor :=
  [async, database, format, buffering, serverTimeZone, serverVersion, user, password]

/-- The fallbacks that properties may set by their keys. -/
def properties : List Descriptor :=
  [user, password]

/-- The fallback that properties may set by this key. -/
def findProperty? (key : String) : Option Descriptor :=
  properties.find? fun setting => setting.key = key

end DbClient.Setting.Fallback
