import CallTransfer.Text.Lowercase
import CallTransfer.Text.Search

/-!
    Regions. A region is a name of small letters, digits and hyphens, written in any case; its API
    endpoint is under `.com` for production regions and under `.ai` for the others. Two regions have
    their tokens issued elsewhere. Looking for a region in an endpoint finds the FIRST place where
    one may stand, and the longest name there.
-/

namespace CallTransfer.Region

open Text (lower after? occurs)

/-- Whether a character may stand in a region's name. -/
def isNameChar (c : Char) : Bool :=
  ('a' ≤ c && c ≤ 'z') || ('0' ≤ c && c ≤ '9') || c == '-'

/-- Whether a text is a region's name. -/
def isName (s : List Char) : Bool := !s.isEmpty && s.all isNameChar

/-- Whether a region serves production. -/
def isProduction (s : List Char) : Bool := "-prod".toList.isSuffixOf s

/-- The API endpoint of a region, or nothing if the text names none. -/
def apiDomain? (region : String) : Option String :=
  let name := lower region.toList
  if isName name then
    some ("https://api." ++ String.ofList name ++
      if isProduction name then ".cresta.com" else ".cresta.ai")
  else none

/-- A region has an endpoint exactly when its name is one in small letters. -/
theorem apiDomain?_eq_some_iff {region domain : String} :
    apiDomain? region = some domain ↔ isName (lower region.toList) = true ∧
      domain = "https://api." ++ String.ofList (lower region.toList) ++
        if isProduction (lower region.toList) then ".cresta.com" else ".cresta.ai" := by
  unfold apiDomain?
  simp only
  split
  · rename_i h
    exact ⟨fun hd => ⟨h, (Option.some.inj hd).symm⟩, fun hd => congrArg some hd.2.symm⟩
  · rename_i h
    exact ⟨nofun, fun hd => absurd hd.1 h⟩

/-- The wording for a text that names no region. -/
def invalidName (region : String) : String := "invalid region: " ++ region

/-- Regions whose tokens another region issues. -/
def tokenIssuers : List (String × String) :=
  [("chat-prod", "us-west-2-prod"), ("voice-prod", "us-west-2-prod")]

/-- The region that issues the tokens of a region. -/
def tokenIssuer (region : String) : String := (tokenIssuers.lookup region).getD region

/-- A region issues its tokens itself or has them issued by the one that does so for others. -/
theorem tokenIssuer_cases (region : String) :
    tokenIssuer region = region ∨ tokenIssuer region = "us-west-2-prod" := by
  simp only [tokenIssuer, tokenIssuers, List.lookup_cons, List.lookup_nil]
  split
  · exact Or.inr rfl
  · split
    · exact Or.inr rfl
    · exact Or.inl rfl

/-- The token endpoint of a region. -/
def tokenDomain (region : String) : String := "https://auth." ++ tokenIssuer region ++ ".cresta.ai"

/-- Whether a text goes on, after a region's name, as an API endpoint does. -/
def closesName (s : List Char) : Bool :=
  ".cresta.ai".toList.isPrefixOf s || ".cresta.com".toList.isPrefixOf s

/-- The region at the front of a text: the whole run of name characters, if it closes. -/
def leading? (s : List Char) : Option (List Char) :=
  let name := s.takeWhile isNameChar
  if !name.isEmpty && closesName (s.dropWhile isNameChar) then some name else none

/-- The region in the first place of a text where one may stand. -/
def search : List Char → Option (List Char)
  | [] => none
  | c :: s =>
    let here := (after? "api-".toList (c :: s)).orElse fun _ => after? "api.".toList (c :: s)
    match here.bind leading? with
    | some name => some name
    | none => search s

/-- The region that an endpoint names. -/
def ofDomain? (domain : String) : Option String := (search domain.toList).map String.ofList

/-- The wording for an endpoint that names no region. -/
def noneInDomain (domain : String) : String := "could not extract region from domain: " ++ domain

end CallTransfer.Region
