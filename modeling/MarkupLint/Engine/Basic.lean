import MarkupLint.LintError
import MarkupLint.World
/-!
# Lint engines

An engine checks a text against a ruleset. It gives findings, fails with an error, or crashes.
-/

namespace MarkupLint

/-- What an engine makes of a text and a ruleset. -/
inductive Verdict where
  | findings (found : List Finding)
  | failed (error : LintError)
  | crashed
deriving DecidableEq, Repr

/-- An engine with its name. What it makes of a text and a ruleset may depend on the world. -/
structure Engine where
  name : String
  verify : World → String → Json → Verdict

namespace Engine

/-- An engine whose verdict depends on nothing but the text and the ruleset. -/
def ofFunction (name : String) (verify : String → Json → Verdict) : Engine where
  name
  verify _ text ruleset := verify text ruleset

/-- Whether the verdict of an engine is the same in every world. -/
def IgnoresWorld (engine : Engine) : Prop :=
  ∀ (first second : World) (text : String) (ruleset : Json),
    engine.verify first text ruleset = engine.verify second text ruleset

end Engine

/-- The engines for the two kinds of documents. -/
structure EngineSet where
  html : Engine
  xml : Engine

/-- One engine for both kinds of documents. -/
def EngineSet.shared (engine : Engine) : EngineSet := ⟨engine, engine⟩

end MarkupLint
