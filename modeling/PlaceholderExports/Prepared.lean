import PlaceholderExports.Failure
import PlaceholderExports.Frontend
import PlaceholderExports.Placeholder

/-!
# Preparing modules

A module is prepared by classifying its text and appending the placeholder of its classification.

* `Frontend.analyze`: the classification of a text.
* `Frontend.prepare`: the text with its placeholder.
-/

namespace PlaceholderExports

/-- A text with the placeholder exports appended, and the classification behind them. -/
structure PreparedModule where
  source : String
  classification : Classification

namespace Frontend

variable (language : Frontend)

/-- The statements of the module under a path. -/
def statements (variant : ScriptVariant) (path : FsPath) (source : String) :
    Except Failure (List Statement) :=
  (language.reduce variant source).mapError (.parse path)

/-- The classification of the module under a path. -/
def analyze (variant : ScriptVariant) (path : FsPath) (source : String) :
    Except Failure Classification :=
  (language.statements variant path source).map classify

/-- Classifies a module and appends its placeholder. -/
def prepare (variant : ScriptVariant) (base : String) (path : FsPath) (source : String) :
    Except Failure PreparedModule :=
  (language.analyze variant path source).map fun classification =>
    { source := Placeholder.append source classification (classification.placeholder base)
      classification }

end Frontend

end PlaceholderExports
