import CallTransfer.Text.Search

/-!
    Resource names of stored secrets. Fields stand between colons; the first three are fixed and the
    fourth is the region that keeps the secret.
-/

namespace CallTransfer.Secret

/-- The region that keeps the secret of a resource name. -/
def region? (arn : String) : Option String :=
  match Text.fields ':' arn.toList with
  | a :: b :: c :: region :: _ =>
    if a = "arn".toList ∧ b = "aws".toList ∧ c = "secretsmanager".toList ∧ region ≠ [] then
      some (String.ofList region)
    else none
  | _ => none

/-- The wording for a text that names no stored secret. -/
def invalidArn (arn : String) : String := "invalid Secrets Manager ARN format: " ++ arn

end CallTransfer.Secret
