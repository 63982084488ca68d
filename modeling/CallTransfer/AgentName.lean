import CallTransfer.Check
import CallTransfer.Text.Lowercase
import CallTransfer.Text.Search

/-!
    Virtual agents. An agent is named by a customer, a profile and an id; its resource name puts
    them into a fixed path, and a text is an agent's name exactly when it is a resource name whose
    three segments are fit for a path.
-/

namespace CallTransfer

open Text (fields lower occurs)

/-- Why a text is no segment of a path. -/
inductive SegmentFault where
  | empty
  | traversal
  | encodedTraversal
  | nul
  deriving DecidableEq, Repr

/-- The wording for a segment called `name`. -/
def SegmentFault.message (name segment : String) : SegmentFault → String
  | empty => name ++ " cannot be empty"
  | traversal => name ++ " contains invalid characters (path traversal detected): " ++ segment
  | encodedTraversal => name ++ " contains URL-encoded path traversal: " ++ segment
  | nul => name ++ " contains null byte"

/-- What makes a text unfit for a segment of a path, the first of several faults. -/
def segmentFault? (segment : String) : Option SegmentFault :=
  let s := segment.toList
  if s.isEmpty then some .empty
  else if occurs ['.', '.'] s || s.contains '/' then some .traversal
  else if occurs "%2e%2e".toList (lower s) then some .encodedTraversal
  else if s.contains '\x00' then some .nul
  else none

/-- What is fit for a path: a text with neither slashes nor double dots in it, and no null byte. -/
theorem segmentFault?_eq_none_iff {segment : String} :
    segmentFault? segment = none ↔
      segment.toList ≠ [] ∧ occurs ['.', '.'] segment.toList = false ∧ '/' ∉ segment.toList ∧
        occurs "%2e%2e".toList (lower segment.toList) = false ∧ '\x00' ∉ segment.toList := by
  simp only [segmentFault?]
  split
  · rename_i he
    exact ⟨nofun, fun h => absurd (List.isEmpty_iff.mp he) h.1⟩
  · rename_i he
    split
    · rename_i ht
      refine ⟨nofun, fun ⟨_, hd, hs, _⟩ => ?_⟩
      rw [hd, Bool.false_or, List.contains_iff_mem] at ht
      exact absurd ht hs
    · rename_i ht
      obtain ⟨hd, hs⟩ := Bool.or_eq_false_iff.mp (Bool.eq_false_iff.mpr ht)
      split
      · rename_i hc
        refine ⟨nofun, fun ⟨_, _, _, hn, _⟩ => ?_⟩
        rw [hn] at hc
        cases hc
      · rename_i hc
        have hs : '/' ∉ segment.toList := by simpa using hs
        split
        · rename_i hz
          exact ⟨nofun, fun h => absurd (List.contains_iff_mem.mp hz) h.2.2.2.2⟩
        · rename_i hz
          exact ⟨fun _ => ⟨mt List.isEmpty_iff.mpr he, hd, hs, Bool.eq_false_iff.mpr hc,
            mt List.contains_iff_mem.mpr hz⟩, fun _ => rfl⟩

/-- The name of a virtual agent. -/
structure AgentName where
  customer : String
  profile : String
  id : String
  deriving DecidableEq, Repr

namespace AgentName

/-- Why a text is no agent's name. -/
inductive Fault where
  | shape (text : String)
  | segment (name segment : String) (fault : SegmentFault)
  deriving DecidableEq, Repr

/-- The wording of a fault. -/
def Fault.message : Fault → String
  | .shape text =>
    "invalid virtual agent name: " ++ text ++ ". Expected format: " ++
      "customers/\x7bcustomer\x7d/profiles/\x7bprofile\x7d/virtualAgents/\x7bvirtualAgentID\x7d"
  | .segment name text fault => fault.message name text

/-- The path that names an agent. -/
def resourceName (a : AgentName) : String :=
  "customers/" ++ a.customer ++ "/profiles/" ++ a.profile ++ "/virtualAgents/" ++ a.id

/-- The three segments of a text that has the shape of a resource name. -/
def split? (text : String) : Option AgentName :=
  match fields '/' text.toList with
  | [a, customer, b, profile, c, id] =>
    if a = "customers".toList ∧ b = "profiles".toList ∧ c = "virtualAgents".toList ∧
        customer ≠ [] ∧ profile ≠ [] ∧ id ≠ [] then
      some ⟨String.ofList customer, String.ofList profile, String.ofList id⟩
    else none
  | _ => none

/-- Passes a segment that is fit for a path. -/
def checkSegment (name segment : String) : Except Fault Unit :=
  match segmentFault? segment with
  | some fault => .error (.segment name segment fault)
  | none => .ok ()

/-- The agent that a text names. -/
def parse (text : String) : Except Fault AgentName :=
  match split? text with
  | none => .error (.shape text)
  | some a => do
    checkSegment "customer" a.customer
    checkSegment "profile" a.profile
    checkSegment "virtualAgentID" a.id
    return a

theorem checkSegment_eq_ok_iff {name segment : String} {done : Unit} :
    checkSegment name segment = .ok done ↔ segmentFault? segment = none := by
  unfold checkSegment
  cases segmentFault? segment with
  | none => exact ⟨fun _ => rfl, fun _ => rfl⟩
  | some fault => exact ⟨nofun, nofun⟩

/-- A text that names an agent has its shape, with three segments that are fit for a path. -/
theorem parse_eq_ok_iff {text : String} {a : AgentName} :
    parse text = .ok a ↔ split? text = some a ∧ segmentFault? a.customer = none ∧
      segmentFault? a.profile = none ∧ segmentFault? a.id = none := by
  unfold parse
  cases split? text with
  | none => exact ⟨nofun, nofun⟩
  | some found =>
    simp only [Check.bind_eq_ok_iff, checkSegment_eq_ok_iff]
    constructor
    · rintro ⟨_, h1, _, h2, _, h3, ⟨⟩⟩
      exact ⟨rfl, h1, h2, h3⟩
    · rintro ⟨⟨⟩, h1, h2, h3⟩
      exact ⟨(), h1, (), h2, (), h3, rfl⟩

end AgentName

end CallTransfer
