import CallTransfer.Halt
import CallTransfer.Transfer.Answer

/-!
    One action, from the request to the answer.
-/

namespace CallTransfer.Transfer

/-- Asks the backend; `fetch` gets the body of its response. -/
def perform (fetch : Http.Request → Act σ Bytes) (t : Transfer) (action : Action) :
    Act σ Answer := do
  let body ← fetch (t.request action)
  Act.ofExcept (fun fault => .responseShape fault.message) (answer (t.url action) action body)

end CallTransfer.Transfer
