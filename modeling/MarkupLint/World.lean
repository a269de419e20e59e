import MarkupLint.FileTree
/-!
# The surrounding world

What a lint run can see of the machine that it runs on.
-/

namespace MarkupLint

/-- The files and the environment variables. -/
structure World where
  files : FileTree
  environment : List (String × String)
deriving Repr

namespace World

/-- The value of an environment variable. -/
def setting? (world : World) (name : String) : Option String := world.environment.lookup name

/-- The directory for the user's configuration: the configured one if it is absolute, or else the
one below the home directory. -/
def configDirectory? (world : World) : Option Path :=
  let configured := (world.setting? "XDG_CONFIG_HOME").map Path.ofString
  match configured.filter Path.isAbsolute with
  | some directory => some directory
  | none =>
      (world.setting? "HOME").map fun home =>
        (Path.ofString home).join (Path.ofString ".config")

end World

end MarkupLint
