import Reroll.Catalog.Basic
import Reroll.Graph.Basic

/-!
# Plans

A plan is everything one run needs besides the devices: the graph, the limit of attempts, the
known modifiers that switch the filter on, targets for checks without their own, and a delay
before the first attempt.
-/

namespace Reroll

/-- What a run does. A plan that is read from a document has whole numbers as limits. -/
structure Plan where
  graph : Graph
  maxAttempts : Value
  known : Option Catalog
  targets : List Spec
  startDelay : Value

end Reroll
