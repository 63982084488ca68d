import CallTransfer.Http.Retry
import CallTransfer.Proofs.Http.Verdict
import CallTransfer.Script

/-!
    The state of a call: a network with its replies, a source of tokens with its results, and a
    record of the attempts that have been made. An attempt consumes one reply, and leaves its
    request behind unless the reply is that there is no connection. If its URL is one that cannot be
    requested at all, or the network is isolated, it leaves the network alone.
-/

namespace CallTransfer.Http

/-! ### Connections -/

/-- Of requests that meet replies in turn, those that a connection is made for. -/
def connected : List Reply → List α → List α
  | _, [] => []
  | [], requests => requests
  | reply :: replies, request :: requests =>
    if reply = .unreached then connected replies requests
    else request :: connected replies requests

/-- One request more is connected unless its reply is that there is no connection. -/
theorem connected_concat (replies : List Reply) (requests : List α) (request : α) :
    connected replies (requests ++ [request]) = connected replies requests ++
      if replies[requests.length]? = some .unreached then [] else [request] := by
  induction requests generalizing replies with
  | nil =>
    cases replies with
    | nil => rfl
    | cons reply replies => simp [connected]
  | cons first requests ih =>
    cases replies with
    | nil => rfl
    | cons reply replies =>
      simp only [List.cons_append, connected, ih replies, List.length_cons,
        List.getElem?_cons_succ]
      split <;> rfl

/-- Of one request made several times, as many are connected as replies allow. -/
theorem connected_replicate (replies : List Reply) (made : Nat) (request : α) :
    connected replies (List.replicate made request) =
      List.replicate (made - (replies.take made).count .unreached) request := by
  induction made generalizing replies with
  | zero => rw [Nat.zero_sub, List.replicate_zero, connected]
  | succ made ih =>
    cases replies with
    | nil => rfl
    | cons reply replies =>
      have hle : (replies.take made).count .unreached ≤ made :=
        Nat.le_trans List.count_le_length (List.length_take_le made replies)
      rw [List.replicate_succ, connected, ih, List.take_succ_cons, List.count_cons]
      by_cases hr : reply = .unreached
      · rw [if_pos hr, if_pos (beq_iff_eq.mpr hr), Nat.add_sub_add_right]
      · have hone : made + 1 - (replies.take made).count .unreached =
            made - (replies.take made).count .unreached + 1 := Nat.sub_add_comm hle
        simp only [if_neg hr, beq_iff_eq, Nat.add_zero, hone, List.replicate_succ]

namespace Network

/-- Whether attempts at a URL meet replies. -/
def answers (n : Network) (url : Url) : Bool := isRequestable (splitUser url).1 && !n.isolated

theorem answers_iff {n : Network} {url : Url} : n.answers url = true ↔
    isRequestable (splitUser url).1 = true ∧ n.isolated = false := by
  rw [answers, Bool.and_eq_true, Bool.not_eq_true']

/-- The outcome of an attempt at a URL behind so many others. -/
def outcomeAt (n : Network) (method : String) (url : Url) (made : Nat) : Outcome :=
  if !isRequestable (splitUser url).1 then broken "builder error" (splitUser url).1 "unknown"
  else if n.isolated then unconnected (splitUser url).1
  else Reply.outcome method (splitUser url).1 n.replies[made]?

/-- What an attempt at a URL comes to that is made with a method behind so many others. -/
def verdictAt (n : Network) (method : String) (url : Url) (made : Nat) : Verdict :=
  if !isRequestable (splitUser url).1 then .unsent "builder error" (splitUser url).1 "unknown"
  else if n.isolated then .unsent "error sending request" (splitUser url).1 "connection_failed"
  else Reply.verdict method (splitUser url).1 n.replies[made]?

/-- The network after attempts at a URL with requests. -/
def after (n : Network) (url : Url) (requests : List Request) : Network :=
  if n.answers url then
    { n with
      replies := n.replies.drop requests.length
      sent := n.sent ++
        connected n.replies (requests.map (·.outgoing (splitUser url).1 (splitUser url).2)) }
  else n

theorem verdict_outcomeAt (n : Network) (method : String) (url : Url) (made : Nat) :
    (n.outcomeAt method url made).verdict = n.verdictAt method url made := by
  unfold outcomeAt verdictAt
  split
  · rfl
  · split
    · rfl
    · exact Reply.verdict_outcome _ _ _

/-- Attempts do not change whether there are replies. -/
theorem answers_after (n : Network) (url : Url) (requests : List Request) :
    (n.after url requests).answers url = n.answers url := by
  unfold after
  split <;> rfl

theorem after_nil (n : Network) (url : Url) : n.after url [] = n := by
  rw [after, List.map_nil, connected, List.append_nil, List.length_nil, List.drop_zero, ite_self]

/-- Attempts with one request leave it behind as often as they find a connection. -/
theorem after_replicate {n : Network} {url : Url} (h : n.answers url = true) (made : Nat)
    (request : Request) :
    n.after url (List.replicate made request) =
      { n with
        replies := n.replies.drop made
        sent := n.sent ++ List.replicate (made - (n.replies.take made).count .unreached)
          (request.outgoing (splitUser url).1 (splitUser url).2) } := by
  rw [after, if_pos h, List.length_replicate, List.map_replicate, connected_replicate]

end Network

/-! ### One attempt -/

namespace Network

variable {n : Network} {url : Url}

/-- An attempt at a URL that cannot be requested leaves the network alone. -/
theorem attempt_of_not_isRequestable (h : isRequestable (splitUser url).1 = false)
    (request : Request) :
    attempt url request n = (broken "builder error" (splitUser url).1 "unknown", n) := by
  simp only [attempt, h, Bool.not_false, if_true]

/-- So does one that is encrypted or made over an isolated network. -/
theorem attempt_of_not_isOpen (hr : isRequestable (splitUser url).1 = true)
    (h : n.isolated = true ∨ url.scheme = "https".toList) (request : Request) :
    attempt url request n = (unconnected (splitUser url).1, n) := by
  have hclosed : (n.isolated || (splitUser url).1.scheme == "https".toList) = true := by
    rw [splitUser_scheme, Bool.or_eq_true, beq_iff_eq]
    exact h
  simp only [attempt, hr, hclosed, Bool.not_true, if_true]
  rfl

/-- Any other attempt meets a reply. -/
theorem attempt_of_answers (h : n.answers url = true) (hs : url.scheme ≠ "https".toList)
    (request : Request) : attempt url request n =
      meet (splitUser url).1 (request.outgoing (splitUser url).1 (splitUser url).2) n := by
  obtain ⟨hr, ho⟩ := answers_iff.mp h
  have hopen : (n.isolated || (splitUser url).1.scheme == "https".toList) = false := by
    rw [splitUser_scheme, ho, Bool.false_or, beq_eq_false_iff_ne]
    exact hs
  simp only [attempt, hr, hopen, Bool.not_true]
  rfl

/-- An attempt in the clear is one more attempt. -/
theorem attempt_after (hs : url.scheme = "http".toList) (requests : List Request)
    (request : Request) : attempt url request (n.after url requests) =
      (n.outcomeAt request.method url requests.length, n.after url (requests ++ [request])) := by
  by_cases ha : n.answers url = true
  · have hmore := (n.answers_after url requests).trans ha
    obtain ⟨hr, ho⟩ := answers_iff.mp ha
    have hclear : url.scheme ≠ "https".toList := by rw [hs]; decide
    rw [attempt_of_answers hmore hclear, meet, after, if_pos ha, after, if_pos ha, outcomeAt, hr,
      ho, Request.method_outgoing]
    simp only [List.head?_drop, List.tail_drop, List.length_append, List.length_singleton,
      List.map_append, List.map_singleton, connected_concat, List.length_map]
    split
    · rw [List.append_nil]
      rfl
    · rw [List.append_assoc]
      rfl
  · rw [after, if_neg ha, after, if_neg ha]
    cases hr : isRequestable (splitUser url).1 with
    | false =>
      rw [attempt_of_not_isRequestable hr, outcomeAt, hr]
      rfl
    | true =>
      have ho : n.isolated = true := by
        rw [answers_iff, not_and] at ha
        exact Bool.not_eq_false _ ▸ ha hr
      rw [attempt_of_not_isOpen hr (Or.inl ho), outcomeAt, hr, ho]
      rfl

end Network

/-- What is around a call, and the attempts that have been made. -/
structure CallState where
  network : Network
  tokens : Script (String × Credentials) String
  attempts : List (Url × Request)

namespace CallState

/-- An attempt over the network of a call. -/
def attempt (url : Url) (request : Request) : Act CallState Outcome := fun s =>
  let (outcome, network) := Network.attempt url request s.network
  (.ok outcome, { s with network, attempts := s.attempts ++ [(url, request)] })

/-- A token from the source of a call, which fails in one way when nothing is prepared. -/
def issue (missing : Failure) (domain : String) (client : Credentials) : Act CallState String :=
  Act.zoom tokens (fun tokens s => { s with tokens }) (Script.take missing (domain, client))

/-- The state after attempts at a URL with requests. -/
def after (s : CallState) (url : Url) (requests : List Request) : CallState :=
  { s with
    network := s.network.after url requests
    attempts := s.attempts ++ requests.map (url, ·) }

theorem after_nil (s : CallState) (url : Url) : s.after url [] = s := by
  simp [after, Network.after_nil]

/-- An attempt in the clear is one more attempt. -/
theorem attempt_after {s : CallState} {url : Url} (hs : url.scheme = "http".toList)
    (requests : List Request) (request : Request) :
    attempt url request (s.after url requests) =
      (.ok (s.network.outcomeAt request.method url requests.length),
        s.after url (requests ++ [request])) := by
  simp [attempt, after, Network.attempt_after hs]

end CallState

end CallTransfer.Http
