import KubePlugin.Table

namespace KubePlugin

inductive OutputFormat where
  | table
  | json
  | yaml
deriving DecidableEq, Repr, Inhabited

namespace OutputFormat

def all : List OutputFormat := [table, json, yaml]

def name : OutputFormat → String
  | table => "table"
  | json => "json"
  | yaml => "yaml"

def ofName? (name : String) : Option OutputFormat := all.find? fun f => f.name == name

end OutputFormat

structure Versions where
  plugin : String
  neonCli : String
  helm : String
deriving DecidableEq, Repr

namespace Versions

def current : Versions where
  plugin := "0.10.0-beta.4"
  neonCli := "0.10.0-beta.4"
  helm := "3.12.0"

def table (v : Versions) : Table where
  header := ["COMPONENT", "VERSION"]
  rows := [["neon", v.plugin], ["neon-cli", v.neonCli], ["helm", v.helm]]

def title (color : Bool) : String :=
  if color then "\x1b[1mNEONKUBE kubectl plugin\x1b[0m" else "NEONKUBE kubectl plugin"

def renderTable (color : Bool) (v : Versions) : String :=
  title color ++ "\n" ++ v.table.render

def entries (v : Versions) : List (String × String) :=
  [("plugin", v.plugin), ("neonCli", v.neonCli), ("helm", v.helm)]

def render (color : Bool) : OutputFormat → String
  | .table => current.renderTable color
  | .json =>
    "\x7b\n" ++
      ",\n".intercalate (current.entries.map fun e => "  \"" ++ e.1 ++ "\": \"" ++ e.2 ++ "\"") ++
      "\n\x7d"
  | .yaml => String.join (current.entries.map fun e => e.1 ++ ": " ++ e.2 ++ "\n")

end Versions

end KubePlugin
