import GraphSelect.Operation.Assembly

/-!
# Building named operations

A builder holds the parts of a named operation and the policy under which it is
rendered. Parameters and policy can be set again; the last setting counts.
-/

set_option autoImplicit false

namespace GraphSelect

/-- A named operation that is being built. -/
structure QueryBuilder where
  name : String
  selector : Selector
  parameters : Option Parameters := none
  policy : Policy := .lenient

namespace QueryBuilder

/-- The builder with the parameters that a value stands for. -/
def withValue (builder : QueryBuilder) (value : Json) : QueryBuilder :=
  { builder with parameters := some (.ofValue value) }

/-- The builder with a raw text as parameters. -/
def withRaw (builder : QueryBuilder) (text : String) : QueryBuilder :=
  { builder with parameters := some (.raw text) }

/-- The builder with a policy. -/
def withPolicy (builder : QueryBuilder) (policy : Policy) : QueryBuilder :=
  { builder with policy }

/-- The request that has been built. -/
def request (builder : QueryBuilder) : Request :=
  .named builder.name builder.parameters builder.selector

/-- The text of the request under the policy of the builder. -/
def build (builder : QueryBuilder) : Except Rejection String :=
  builder.request.render builder.policy

end QueryBuilder

end GraphSelect
