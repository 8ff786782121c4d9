import SceneArchive.Path

/-!
# The environment of a call

What a call takes from its surroundings, and where its config file is unless it names one: below
the directory of config files, which is `.config` in the home directory unless an absolute path
says otherwise.
-/

namespace SceneArchive.CommandLine

/-- What the environment of a call says. -/
structure Environment where
  /-- The path of the database. -/
  database : Option String
  /-- The path of the config file. -/
  config : Option String
  /-- The directory of config files. -/
  configHome : Option String
  /-- The home directory. -/
  home : Option String
  deriving Repr

namespace Environment

/-- The directory of config files. A relative path is not used. -/
def configDirectory? (e : Environment) : Option String :=
  e.configHome.filter Path.isAbsolute <|> e.home.map (Path.join · ".config")

/-- The path of the config file of a call that names none. -/
def configPath? (e : Environment) : Option String :=
  e.configDirectory?.map fun directory => Path.join (Path.join directory "scenedex") "config.toml"

end Environment

end SceneArchive.CommandLine
