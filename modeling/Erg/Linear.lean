import Erg.Wire

/-! # The Linear provider

`linear.go`, function by function.  Every request is a GraphQL POST to
`{apiBase}/graphql`, authorised by the key in `LINEAR_API_KEY` (`apiKey`, empty when
unset).  The query texts are constants of the source and the variables are what
changes, so the API (`LinearAPI`) is indexed by the operation, with its variables as
arguments: the team-issues query (with the label filter exactly when a label is
configured), the label search, the two mutations and the teams query.  The mutations
may change what the server holds, so the API carries a server state `σ`.

Linear filters issues by label on the server (`eqIgnoreCase`); the provider only maps
the nodes it gets back.  Its `RemoveLabel` searches labels by name and disconnects the
first node the search returns.
-/
namespace Erg

/-- `linearIssue`: one node of the team-issues query. -/
structure LinearIssue where
  id : GoString
  identifier : GoString
  title : GoString
  description : GoString
  url : GoString
deriving DecidableEq, Repr

/-- `LinearTeam`, and `linearTeam` of the teams query: the two structs have the same two
fields. -/
structure LinearTeam where
  id : GoString
  name : GoString
deriving DecidableEq, Repr

/-- One node of the label search's `issueLabels`. -/
structure LinearLabel where
  id : GoString
  name : GoString
deriving DecidableEq, Repr

/-- The Linear GraphQL API at server state `σ`, by operation; the first argument of each
is the URL the request is posted to. -/
structure LinearAPI (σ : Type) where
  /-- `team(id: $teamId) { issues(filter: ...) }`, the label filter present exactly when
  a label is given; decoded as `linearTeamIssuesResponse`. -/
  teamIssues : σ → GoString → GoString → Option GoString → Reply (List LinearIssue)
  /-- `issueLabels(filter: { name: { eqIgnoreCase: $label } })`. -/
  issueLabels : σ → GoString → GoString → Reply (List LinearLabel)
  /-- `issueLabelDisconnect(id: $issueId, labelId: $labelId)`, and the state after it. -/
  issueLabelDisconnect : σ → GoString → GoString → GoString → Reply Unit × σ
  /-- `commentCreate(input: { issueId: $issueId, body: $body })`, and the state after it. -/
  commentCreate : σ → GoString → GoString → GoString → Reply Unit × σ
  /-- `{ teams { nodes { id name } } }`, decoded as `linearTeamsResponse`. -/
  teams : σ → GoString → Reply (List LinearTeam)

/-- `LinearProvider`: the repository configuration it asks `HasLinearTeam`, and its API
base URL. -/
structure LinearProvider where
  hasLinearTeam : GoString → Bool
  apiBase : GoString

namespace LinearProvider

/-- The URL every request is posted to. -/
def graphqlURL (apiBase : GoString) : GoString := apiBase ++ lit "/graphql"

section
variable (uc : UnicodeCase) {σ : Type} (api : LinearAPI σ) (st : σ) (p : LinearProvider)

/-- `Name`. -/
def name : String := "Linear Issues"

/-- `Source`. -/
def source : Source := .linear

/-- `IsConfigured`: the key is set and the repository has a team. -/
def isConfigured (apiKey repoPath : GoString) : Bool :=
  if apiKey = [] then false else p.hasLinearTeam repoPath

/-- `GenerateBranchName`: `"linear-"` and the lowered identifier. -/
def generateBranchName (issue : Issue) : GoString :=
  lit "linear-" ++ Strings.toLower uc issue.id

/-- `GetPRLinkText`: the magic words that make Linear close the issue. -/
def getPRLinkText (issue : Issue) : GoString := lit "Fixes " ++ issue.id

/-- The `Issue` a node becomes: its ID is the identifier (`ENG-123`), not the UUID. -/
def toIssue (issue : LinearIssue) : Issue :=
  { id := issue.identifier, title := issue.title, body := issue.description, url := issue.url,
    source := .linear }

/-- `FetchIssues`: the team's active issues, filtered by label on the server when a
label is configured. -/
def fetchIssues (apiKey : GoString) (filter : FilterConfig) : Except GoError (List Issue) := do
  if apiKey = [] then throw (.errorf "LINEAR_API_KEY environment variable not set" [])
  let projectID := filter.team
  if projectID = [] then throw (.errorf "Linear team ID not configured for this repository" [])
  let label := if filter.label ≠ [] then some filter.label else none
  let reply := api.teamIssues st (graphqlURL p.apiBase) projectID label
  if reply.status? = some 403 then
    throw (.errorf ("Linear API returned 403 Forbidden - check that your LINEAR_API_KEY has " ++
      "access to this team") [])
  let nodes ← receive "failed to create request: %w" "failed to fetch issues: %w"
    "Linear API returned status %d" "failed to parse Linear response: %w" reply
  return nodes.map toIssue

/-- `FetchIssues` past its two configuration checks: the 403 check, then the nodes of the
reply mapped to issues. -/
theorem fetchIssues_eq {apiKey : GoString} {f : FilterConfig} (hkey : apiKey ≠ [])
    (hteam : f.team ≠ []) :
    fetchIssues api st p apiKey f =
      let reply := api.teamIssues st (graphqlURL p.apiBase) f.team
        (if f.label = [] then none else some f.label)
      if reply.status? = some 403 then
        .error (.errorf ("Linear API returned 403 Forbidden - check that your LINEAR_API_KEY " ++
          "has access to this team") [])
      else (receive "failed to create request: %w" "failed to fetch issues: %w"
          "Linear API returned status %d" "failed to parse Linear response: %w" reply).map
        (List.map toIssue) := by
  simp only [fetchIssues, hkey, hteam, if_false, ne_eq, ite_not]
  split
  · rfl
  · cases receive "failed to create request: %w" "failed to fetch issues: %w"
      "Linear API returned status %d" "failed to parse Linear response: %w"
      (api.teamIssues st (graphqlURL p.apiBase) f.team
        (if f.label = [] then none else some f.label)) <;> rfl

/-- `RemoveLabel`: search the labels by name, then disconnect the first node found. -/
def removeLabel (apiKey issueID label : GoString) : Except GoError Unit × σ :=
  if apiKey = [] then (.error (.errorf "LINEAR_API_KEY environment variable not set" []), st)
  else
    match receive "failed to create label search request: %w" "failed to search for label: %w"
        "Linear API returned status %d for label search"
        "failed to parse label search response: %w"
        (api.issueLabels st (graphqlURL p.apiBase) label) with
    | .error err => (.error err, st)
    | .ok [] => (.error (.errorf "label %q not found in Linear" [.str label]), st)
    | .ok (node :: _) =>
      let (reply, st') := api.issueLabelDisconnect st (graphqlURL p.apiBase) issueID node.id
      (checkStatus "failed to create label removal request: %w" "failed to remove label: %w"
        "Linear API returned status %d for label removal" 200 reply, st')

/-- `Comment`: create a comment on the issue.  The variables go through `json.Marshal`,
so the body Linear reads is `Json.roundTrip body`. -/
def comment (apiKey issueID body : GoString) : Except GoError Unit × σ :=
  if apiKey = [] then (.error (.errorf "LINEAR_API_KEY environment variable not set" []), st)
  else
    let (reply, st') := api.commentCreate st (graphqlURL p.apiBase) issueID (Json.roundTrip body)
    (checkStatus "failed to create comment request: %w" "failed to create comment: %w"
      "Linear API returned status %d for comment creation" 200 reply, st')

/-- A `RemoveLabel` that returns `nil` had a key, got a non-empty label search, and had
the disconnect of the *first* node answered `200 OK`; the server state after it is the
one that mutation left. -/
theorem removeLabel_ok {apiKey g L : GoString} (h : (removeLabel api st p apiKey g L).1 = .ok ()) :
    apiKey ≠ [] ∧ ∃ node rest,
      api.issueLabels st (graphqlURL p.apiBase) L = .response 200 (.ok (node :: rest)) ∧
      (∃ body, (api.issueLabelDisconnect st (graphqlURL p.apiBase) g node.id).1 =
        .response 200 body) ∧
      (removeLabel api st p apiKey g L).2 =
        (api.issueLabelDisconnect st (graphqlURL p.apiBase) g node.id).2 := by
  unfold removeLabel at h ⊢
  split at h
  · cases h
  rename_i hkey
  refine ⟨hkey, ?_⟩
  split at h
  · cases h
  · cases h
  rename_i node rest hl
  simp only [hkey, if_false, hl] at h ⊢
  exact ⟨node, rest, receive_eq_ok.mp hl, checkStatus_eq_ok.mp h, rfl⟩

/-- Whatever it returns, `RemoveLabel` leaves the server as it was or as one disconnect
of a label from the issue left it. -/
theorem removeLabel_state (apiKey g L : GoString) :
    (removeLabel api st p apiKey g L).2 = st ∨ ∃ labelID,
      (removeLabel api st p apiKey g L).2 =
        (api.issueLabelDisconnect st (graphqlURL p.apiBase) g labelID).2 := by
  unfold removeLabel
  split
  · exact .inl rfl
  split
  · exact .inl rfl
  · exact .inl rfl
  · exact .inr ⟨_, rfl⟩

/-- Whatever it returns, `Comment` leaves the server as it was or as its mutation left
it. -/
theorem comment_state (apiKey g body : GoString) :
    (comment api st p apiKey g body).2 = st ∨
      (comment api st p apiKey g body).2 =
        (api.commentCreate st (graphqlURL p.apiBase) g (Json.roundTrip body)).2 := by
  unfold comment
  split
  · exact .inl rfl
  · exact .inr rfl

/-- `FetchTeams`: every team the key can see. -/
def fetchTeams (apiKey : GoString) : Except GoError (List LinearTeam) :=
  if apiKey = [] then .error (.errorf "LINEAR_API_KEY environment variable not set" [])
  else receive "failed to create request: %w" "failed to fetch teams: %w"
    "Linear API returned status %d" "failed to parse Linear teams response: %w"
    (api.teams st (graphqlURL p.apiBase))

end

end LinearProvider

end Erg
