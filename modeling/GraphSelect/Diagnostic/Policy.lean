import GraphSelect.Diagnostic.Basic

/-!
# Policies

A policy says what happens to input that has diagnostics. The lenient policy
passes the result on, and the strict one rejects it.
-/

set_option autoImplicit false

namespace GraphSelect

/-- What to do with a result that has diagnostics. -/
inductive Policy where
  | lenient
  | strict
deriving DecidableEq, Repr, Inhabited

/-- A result that was refused, with the diagnostics that are the reason. -/
structure Rejection where
  diagnostics : Diagnostics
deriving DecidableEq, Repr

/-- The rejection in words. -/
def Rejection.message (rejection : Rejection) : String :=
  "query rejected with " ++ rejection.diagnostics.length.repr ++ " diagnostics"

namespace Policy

/-- The strict policy when `strict` holds. -/
def ofStrict (strict : Bool) : Policy := if strict then .strict else .lenient

/-- Whether a result with these diagnostics is refused. -/
def rejects (policy : Policy) (diagnostics : Diagnostics) : Bool :=
  policy = .strict && !diagnostics.isEmpty

/-- The result, unless the policy refuses it. -/
def check {α : Type} (policy : Policy) (diagnostics : Diagnostics) (result : α) :
    Except Rejection α :=
  if policy.rejects diagnostics then .error ⟨diagnostics⟩ else .ok result

@[simp] theorem check_lenient {α : Type} (diagnostics : Diagnostics) (result : α) :
    check .lenient diagnostics result = .ok result := rfl

/-- The strict policy passes a result on exactly when there is no diagnostic. -/
theorem check_strict_eq_ok_iff {α : Type} {diagnostics : Diagnostics} {result passed : α} :
    check .strict diagnostics result = .ok passed ↔ diagnostics = [] ∧ passed = result := by
  cases diagnostics <;> simp [check, rejects, eq_comm]

/-- The strict policy refuses a result exactly when there is a diagnostic, and it passes
all of them on. -/
theorem check_strict_eq_error_iff {α : Type} {diagnostics : Diagnostics} {result : α}
    {rejection : Rejection} :
    check .strict diagnostics result = .error rejection ↔
      diagnostics ≠ [] ∧ rejection = ⟨diagnostics⟩ := by
  cases diagnostics <;> simp [check, rejects, eq_comm]

end Policy

end GraphSelect
