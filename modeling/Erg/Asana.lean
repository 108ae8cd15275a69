import Erg.Wire

/-! # The Asana provider

`asana.go`, function by function.  The provider reads its personal access token from
`ASANA_PAT` (`pat`, empty when unset) and talks to the REST API under `apiBase`; the API
is a parameter (`AsanaAPI`), answering each URL the source builds with a `Reply` whose
body is decoded into the struct the source decodes it into.  A POST may change what the
server holds, so the API carries a server state `σ` and the two actions return the state
after them.

The two loops of the file are modelled as loops: the tag filter of `FetchIssues` (an
outer loop appending to `filtered`, an inner one that `break`s at the first matching
tag) and the pagination loop of `fetchWorkspaceProjects`, which runs for as long as the
server hands out offsets.  The latter need not end, so it runs on fuel and answers
`none` when the fuel is spent; `AsanaPagination` proves how much fuel is enough.
-/
namespace Erg

/-! ## The JSON the source decodes -/

/-- `asanaTag`: a tag of a task, as the tasks endpoint reports it (`tags.name`). -/
structure AsanaTag where
  name : GoString
deriving DecidableEq, Repr

/-- `asanaTask`: one task of the tasks endpoint's `data`. -/
structure AsanaTask where
  gid : GoString
  name : GoString
  notes : GoString
  permalink : GoString
  tags : List AsanaTag
deriving DecidableEq, Repr

/-- `asanaWorkspace`: one workspace of the workspaces endpoint's `data`. -/
structure AsanaWorkspace where
  gid : GoString
  name : GoString
deriving DecidableEq, Repr

/-- `AsanaProject`, and `asanaProject` of the projects endpoint's `data`: the two structs
have the same two fields. -/
structure AsanaProject where
  gid : GoString
  name : GoString
deriving DecidableEq, Repr

/-- `asanaNextPage`; the source reads only its `offset`. -/
structure AsanaNextPage where
  offset : GoString
deriving DecidableEq, Repr

/-- `asanaProjectsResponse`: one page of projects, and the next page if there is one. -/
structure AsanaProjectsResponse where
  data : List AsanaProject
  nextPage : Option AsanaNextPage
deriving DecidableEq, Repr

/-- One element of `asanaTagsSearchResponse.Data`: a tag of a workspace. -/
structure AsanaTagEntry where
  gid : GoString
  name : GoString
deriving DecidableEq, Repr

/-- The JSON payload of a POST: `{"data": {"tag": gid}}` to `removeTag`, or
`{"data": {"text": body}}` to `stories`. -/
inductive AsanaPayload where
  | tag (gid : GoString)
  | text (body : GoString)
deriving DecidableEq, Repr

/-- The Asana REST API at server state `σ`: what a GET of each URL comes back with,
decoded as the source decodes that endpoint, and what a POST comes back with, together
with the state after it. -/
structure AsanaAPI (σ : Type) where
  /-- `GET /projects/{gid}/tasks`, decoded as `asanaTasksResponse`. -/
  tasks : σ → GoString → Reply (List AsanaTask)
  /-- `GET /workspaces`, decoded as `asanaWorkspacesResponse`. -/
  workspaces : σ → GoString → Reply (List AsanaWorkspace)
  /-- `GET /workspaces/{gid}/projects`, decoded as `asanaProjectsResponse`. -/
  projects : σ → GoString → Reply AsanaProjectsResponse
  /-- `GET /tasks/{gid}?opt_fields=workspace.gid`: the task's `data.workspace.gid`. -/
  taskWorkspace : σ → GoString → Reply GoString
  /-- `GET /workspaces/{gid}/tags`, decoded as `asanaTagsSearchResponse`. -/
  tags : σ → GoString → Reply (List AsanaTagEntry)
  /-- A POST of a JSON payload, and the server state after it. -/
  post : σ → GoString → AsanaPayload → Reply Unit × σ

/-- `AsanaProvider`: the repository configuration it asks `HasAsanaProject`, and its API
base URL. -/
structure AsanaProvider where
  hasAsanaProject : GoString → Bool
  apiBase : GoString

namespace AsanaProvider

/-! ## URLs -/

/-- `fmt.Sprintf("%s" + pre + "%s" + suf, apiBase, gid)`: the shape of every URL the
provider builds around one GID. -/
def gidURL (pre suf : String) (apiBase gid : GoString) : GoString :=
  apiBase ++ lit pre ++ gid ++ lit suf

/-- A URL built around a GID names that GID. -/
@[simp] theorem gidURL_inj {pre suf : String} {apiBase g g' : GoString} :
    gidURL pre suf apiBase g = gidURL pre suf apiBase g' ↔ g = g' := by
  simp [gidURL]

/-- The URL of `FetchIssues`. -/
def tasksURL (apiBase projectID : GoString) : GoString :=
  gidURL "/projects/" "/tasks?opt_fields=gid,name,notes,permalink_url,tags.name&completed_since=now"
    apiBase projectID

/-- The URL of `fetchWorkspaces`. -/
def workspacesURL (apiBase : GoString) : GoString := apiBase ++ lit "/workspaces"

/-- `baseURL` of `fetchWorkspaceProjects`. -/
def projectsURL (apiBase workspaceGID : GoString) : GoString :=
  gidURL "/workspaces/" "/projects?opt_fields=gid,name&limit=100" apiBase workspaceGID

/-- `taskURL` of `findTagGID`. -/
def taskURL (apiBase taskGID : GoString) : GoString :=
  gidURL "/tasks/" "?opt_fields=workspace.gid" apiBase taskGID

/-- `tagsURL` of `findTagGID`. -/
def tagsURL (apiBase workspaceGID : GoString) : GoString :=
  gidURL "/workspaces/" "/tags?opt_fields=gid,name" apiBase workspaceGID

/-- The URL of `RemoveLabel`. -/
def removeTagURL (apiBase issueID : GoString) : GoString :=
  gidURL "/tasks/" "/removeTag" apiBase issueID

/-- The URL of `Comment`. -/
def storiesURL (apiBase issueID : GoString) : GoString :=
  gidURL "/tasks/" "/stories" apiBase issueID

/-! ## Issues -/

section Fetch
variable (uc : UnicodeCase) {σ : Type} (api : AsanaAPI σ) (st : σ) (p : AsanaProvider)

/-- `Name`. -/
def name : String := "Asana Tasks"

/-- `Source`. -/
def source : Source := .asana

/-- `IsConfigured`: the token is set and the repository has a project. -/
def isConfigured (pat repoPath : GoString) : Bool :=
  if pat = [] then false else p.hasAsanaProject repoPath

/-- `GetPRLinkText`: Asana closes no task from a pull request. -/
def getPRLinkText (_issue : Issue) : GoString := []

/-- The inner loop of the tag filter: whether one of the task's tags matches the label,
stopping at the first (`break`). -/
def hasMatchingTag (label : GoString) : List AsanaTag → Bool
  | [] => false
  | tag :: tags => if Strings.equalFold uc tag.name label then true else hasMatchingTag label tags

/-- The outer loop of the tag filter: `filtered = append(filtered, task)` for each task
whose inner loop found a tag. -/
def filterLoop (label : GoString) : List AsanaTask → List AsanaTask → List AsanaTask
  | filtered, [] => filtered
  | filtered, task :: tasks =>
    filterLoop label (if hasMatchingTag uc label task.tags then filtered ++ [task] else filtered)
      tasks

/-- The `Issue` a task becomes. -/
def toIssue (task : AsanaTask) : Issue :=
  { id := task.gid, title := task.name, body := task.notes, url := task.permalink,
    source := .asana }

/-- `FetchIssues`: the project's incomplete tasks, filtered by tag when a label is
configured. -/
def fetchIssues (pat : GoString) (filter : FilterConfig) : Except GoError (List Issue) := do
  if pat = [] then throw (.errorf "ASANA_PAT environment variable not set" [])
  let projectID := filter.project
  if projectID = [] then
    throw (.errorf "Asana project GID not configured for this repository" [])
  let reply := api.tasks st (tasksURL p.apiBase projectID)
  if reply.status? = some 403 then
    throw (.errorf ("Asana API returned 403 Forbidden - check that your ASANA_PAT has " ++
      "access to this project") [])
  let tasks ← receive "failed to create request: %w" "failed to fetch tasks: %w"
    "Asana API returned status %d" "failed to parse Asana response: %w" reply
  let tasks := if filter.label ≠ [] then filterLoop uc filter.label [] tasks else tasks
  return tasks.map toIssue

theorem hasMatchingTag_eq (label : GoString) (tags : List AsanaTag) :
    hasMatchingTag uc label tags = tags.any fun tag => Strings.equalFold uc tag.name label := by
  induction tags with
  | nil => rfl
  | cons tag tags ih => by_cases h : Strings.equalFold uc tag.name label <;> simp [hasMatchingTag, h, ih]

/-- The filter loop appends the matching tasks, in order, each once. -/
theorem filterLoop_eq (label : GoString) (filtered tasks : List AsanaTask) :
    filterLoop uc label filtered tasks =
      filtered ++ tasks.filter fun t => t.tags.any fun g => Strings.equalFold uc g.name label := by
  induction tasks generalizing filtered with
  | nil => simp [filterLoop]
  | cons task tasks ih =>
    rw [filterLoop, ih, hasMatchingTag_eq, List.filter_cons]
    split <;> simp

/-- `FetchIssues` past its two configuration checks: the 403 check, then the reply read
as a task list, filtered when the label is set, and mapped to issues. -/
theorem fetchIssues_eq {pat : GoString} {f : FilterConfig} (hpat : pat ≠ [])
    (hproject : f.project ≠ []) :
    fetchIssues uc api st p pat f =
      if (api.tasks st (tasksURL p.apiBase f.project)).status? = some 403 then
        .error (.errorf ("Asana API returned 403 Forbidden - check that your ASANA_PAT has " ++
          "access to this project") [])
      else (receive "failed to create request: %w" "failed to fetch tasks: %w"
          "Asana API returned status %d" "failed to parse Asana response: %w"
          (api.tasks st (tasksURL p.apiBase f.project))).map fun tasks =>
        (if f.label = [] then tasks
          else tasks.filter fun t => t.tags.any fun g => Strings.equalFold uc g.name f.label).map
          toIssue := by
  simp only [fetchIssues, hpat, hproject, if_false, ne_eq, ite_not, filterLoop_eq, List.nil_append]
  split
  · rfl
  · cases receive "failed to create request: %w" "failed to fetch tasks: %w"
      "Asana API returned status %d" "failed to parse Asana response: %w"
      (api.tasks st (tasksURL p.apiBase f.project)) <;> rfl

/-- **`FetchIssues` is the tag filter of the response, mapped to issues.**  For every
task list the tasks endpoint returns and every filter with a project, the result keeps
the response's order and holds each task with a tag whose name `EqualFold`s the label
exactly once, and no other (every task when the label is empty). -/
theorem fetchIssues_eq_filter {pat : GoString} {f : FilterConfig} {tasks : List AsanaTask}
    (hpat : pat ≠ []) (hproject : f.project ≠ [])
    (hreply : api.tasks st (tasksURL p.apiBase f.project) = .response 200 (.ok tasks)) :
    fetchIssues uc api st p pat f =
      .ok ((if f.label = [] then tasks
          else tasks.filter fun t => t.tags.any fun g => Strings.equalFold uc g.name f.label).map
        fun t => { id := t.gid, title := t.name, body := t.notes, url := t.permalink,
                   source := .asana }) := by
  rw [fetchIssues_eq uc api st p hpat hproject, hreply]
  rfl

/-- An API whose tasks endpoint lists a task tagged `Queued` and one tagged `other`, and
whose other endpoints fail. -/
def taggedTasksAPI : AsanaAPI Unit where
  tasks _ _ := .response 200 (.ok [⟨lit "1", lit "Tagged", [], [], [⟨lit "Queued"⟩]⟩,
    ⟨lit "2", lit "Other", [], [], [⟨lit "other"⟩]⟩])
  workspaces _ _ := .failed []
  projects _ _ := .failed []
  taskWorkspace _ _ := .failed []
  tags _ _ := .failed []
  post s _ _ := (.failed [], s)

theorem fetchIssues_queued :
    lit "pat" ≠ [] ∧ lit "1234" ≠ [] ∧
      fetchIssues UnicodeCase.identity taggedTasksAPI () ⟨fun _ => true, lit "https://asana"⟩
        (lit "pat") ⟨lit "queued", lit "1234", []⟩ = .ok [⟨lit "1", lit "Tagged", [], [], .asana⟩] :=
  ⟨by decide, by decide,
    (fetchIssues_eq_filter _ _ _ _ (by decide) (by decide) rfl).trans (by decide)⟩

end Fetch

/-! ## Projects -/

section Projects
variable {σ : Type} (api : AsanaAPI σ) (st : σ) (p : AsanaProvider)

/-- `fetchWorkspaces`. -/
def fetchWorkspaces : Except GoError (List AsanaWorkspace) :=
  receive "failed to create request: %w" "failed to fetch workspaces: %w"
    "Asana API returned status %d for workspaces" "failed to parse workspaces response: %w"
    (api.workspaces st (workspacesURL p.apiBase))

/-- `nextOffset` of `fetchProjectsPage`: the next page's offset, empty when there is no
next page. -/
def nextOffset (projResp : AsanaProjectsResponse) : GoString :=
  match projResp.nextPage with
  | some nextPage => nextPage.offset
  | none => []

/-- `fetchProjectsPage`: one page of projects and the next page's offset. -/
def fetchProjectsPage (requestURL : GoString) :
    Except GoError (List AsanaProject × GoString) := do
  let projResp ← receive "failed to create request: %w" "failed to fetch projects: %w"
    "Asana API returned status %d for projects" "failed to parse projects response: %w"
    (api.projects st requestURL)
  return (projResp.data, nextOffset projResp)

/-- The `for` loop of `fetchWorkspaceProjects`, with `fuel` more pages to go: each page
is appended to `allProjects`, and a non-empty offset sends the loop to
`baseURL + "&offset=" + nextOffset`.  `none` when the loop is still going. -/
def projectsLoop (baseURL : GoString) :
    Nat → GoString → List AsanaProject → Option (Except GoError (List AsanaProject))
  | 0, _, _ => none
  | fuel + 1, requestURL, allProjects =>
    match fetchProjectsPage api st requestURL with
    | .error err => some (.error err)
    | .ok (projects, nextOffset) =>
      if nextOffset = [] then some (.ok (allProjects ++ projects))
      else projectsLoop baseURL fuel (baseURL ++ lit "&offset=" ++ nextOffset)
        (allProjects ++ projects)

/-- `fetchWorkspaceProjects`: every project of a workspace, page after page. -/
def fetchWorkspaceProjects (fuel : Nat) (workspaceGID : GoString) :
    Option (Except GoError (List AsanaProject)) :=
  let baseURL := projectsURL p.apiBase workspaceGID
  projectsLoop api st baseURL fuel baseURL []

/-- The name `FetchProjects` gives a project of workspace `ws`. -/
def projectName (multiWorkspace : Bool) (ws : AsanaWorkspace) (proj : AsanaProject) :
    GoString :=
  if multiWorkspace then ws.name ++ lit " / " ++ proj.name else proj.name

/-- The `for _, ws := range workspaces` loop of `FetchProjects`. -/
def workspacesLoop (fuel : Nat) (multiWorkspace : Bool) :
    List AsanaWorkspace → List AsanaProject → Option (Except GoError (List AsanaProject))
  | [], allProjects => some (.ok allProjects)
  | ws :: workspaces, allProjects =>
    match fetchWorkspaceProjects api st p fuel ws.gid with
    | none => none
    | some (.error err) =>
      some (.error (.wrapf "failed to fetch projects for workspace %q: %w" [.str ws.name] err))
    | some (.ok projects) =>
      workspacesLoop fuel multiWorkspace workspaces
        (allProjects ++ projects.map fun proj =>
          { gid := proj.gid, name := projectName multiWorkspace ws proj })

/-- `FetchProjects`: every project of every workspace of the user, names prefixed with
the workspace's when there are several workspaces. -/
def fetchProjects (fuel : Nat) (pat : GoString) : Option (Except GoError (List AsanaProject)) :=
  if pat = [] then some (.error (.errorf "ASANA_PAT environment variable not set" []))
  else match fetchWorkspaces api st p with
    | .error err => some (.error err)
    | .ok workspaces =>
      if workspaces = [] then some (.ok [])
      else workspacesLoop api st p fuel (decide (1 < workspaces.length)) workspaces []

end Projects

/-! ## Actions -/

section Actions
variable (uc : UnicodeCase) {σ : Type} (api : AsanaAPI σ) (st : σ) (p : AsanaProvider)

/-- `findTagGID`: the GID of the first tag of the task's workspace whose name `EqualFold`s
`tagName`. -/
def findTagGID (taskGID tagName : GoString) : Except GoError GoString := do
  let workspaceGID ← receive "failed to create task request: %w" "failed to fetch task: %w"
    "Asana API returned status %d for task lookup" "failed to parse task response: %w"
    (api.taskWorkspace st (taskURL p.apiBase taskGID))
  if workspaceGID = [] then
    throw (.errorf "could not determine workspace for task %s" [.str taskGID])
  let tags ← receive "failed to create tags request: %w" "failed to fetch tags: %w"
    "Asana API returned status %d for tags" "failed to parse tags response: %w"
    (api.tags st (tagsURL p.apiBase workspaceGID))
  match tags.find? fun tag => Strings.equalFold uc tag.name tagName with
  | some tag => return tag.gid
  | none => throw (.errorf "tag %q not found in workspace" [.str tagName])

/-- `RemoveLabel`: find the tag's GID by name, then POST it to the task's `removeTag`. -/
def removeLabel (pat issueID label : GoString) : Except GoError Unit × σ :=
  if pat = [] then (.error (.errorf "ASANA_PAT environment variable not set" []), st)
  else match findTagGID uc api st p issueID label with
    | .error err => (.error (.wrapf "failed to find tag %q: %w" [.str label] err), st)
    | .ok tagGID =>
      let (reply, st') := api.post st (removeTagURL p.apiBase issueID) (.tag tagGID)
      (checkStatus "failed to create removeTag request: %w" "failed to remove tag: %w"
        "Asana API returned status %d for removeTag" 200 reply, st')

/-- `Comment`: POST a story to the task; Asana answers `201 Created`.  The body goes
through `json.Marshal`, so the story text Asana reads is `Json.roundTrip body`. -/
def comment (pat issueID body : GoString) : Except GoError Unit × σ :=
  if pat = [] then (.error (.errorf "ASANA_PAT environment variable not set" []), st)
  else
    let (reply, st') := api.post st (storiesURL p.apiBase issueID) (.text (Json.roundTrip body))
    (checkStatus "failed to create story request: %w" "failed to create story: %w"
      "Asana API returned status %d for story creation" 201 reply, st')

/-- **What a successful `findTagGID` read.**  The task lookup answered a non-empty
workspace GID, the workspace's tags were read, and the GID returned is that of the
*first* tag whose name `EqualFold`s `tagName`; and every such pair of replies makes it
succeed. -/
theorem findTagGID_ok {g L tagGID : GoString} :
    findTagGID uc api st p g L = .ok tagGID ↔
      ∃ ws tags tag, api.taskWorkspace st (taskURL p.apiBase g) = .response 200 (.ok ws) ∧
        ws ≠ [] ∧ api.tags st (tagsURL p.apiBase ws) = .response 200 (.ok tags) ∧
        tags.find? (fun tag => Strings.equalFold uc tag.name L) = some tag ∧ tag.gid = tagGID := by
  constructor
  · intro h
    simp only [findTagGID, bind, Except.bind, pure, Except.pure] at h
    split at h
    · cases h
    rename_i ws h1
    split at h
    · cases h
    split at h
    · cases h
    rename_i hws _ tags h2
    split at h
    · exact ⟨ws, tags, _, receive_eq_ok.mp h1, hws, receive_eq_ok.mp h2, ‹_›, Except.ok.inj h⟩
    · cases h
  · rintro ⟨ws, tags, tag, h1, hws, h2, h3, rfl⟩
    simp [findTagGID, h1, h2, h3, hws, receive, bind, Except.bind, pure, Except.pure,
      Except.mapError]

/-- A `RemoveLabel` that returns `nil` had a token, found a tag, and had its `removeTag`
POST answered `200 OK`; the server state after it is the one that POST left. -/
theorem removeLabel_ok {pat g L : GoString} (h : (removeLabel uc api st p pat g L).1 = .ok ()) :
    pat ≠ [] ∧ ∃ tagGID, findTagGID uc api st p g L = .ok tagGID ∧
      (∃ body, (api.post st (removeTagURL p.apiBase g) (.tag tagGID)).1 = .response 200 body) ∧
      (removeLabel uc api st p pat g L).2 =
        (api.post st (removeTagURL p.apiBase g) (.tag tagGID)).2 := by
  unfold removeLabel at h ⊢
  split at h
  · cases h
  rename_i hpat
  refine ⟨hpat, ?_⟩
  split at h
  · cases h
  rename_i tagGID hf
  simp only [hpat, if_false, hf] at h ⊢
  exact ⟨tagGID, rfl, checkStatus_eq_ok.mp h, rfl⟩

/-- Whatever it returns, `RemoveLabel` leaves the server as it was or as one `removeTag`
POST to the task left it. -/
theorem removeLabel_state (pat g L : GoString) :
    (removeLabel uc api st p pat g L).2 = st ∨ ∃ tagGID,
      (removeLabel uc api st p pat g L).2 =
        (api.post st (removeTagURL p.apiBase g) (.tag tagGID)).2 := by
  unfold removeLabel
  split
  · exact .inl rfl
  split
  · exact .inl rfl
  · exact .inr ⟨_, rfl⟩

/-- Whatever it returns, `Comment` leaves the server as it was or as its story POST left
it. -/
theorem comment_state (pat g body : GoString) :
    (comment api st p pat g body).2 = st ∨
      (comment api st p pat g body).2 =
        (api.post st (storiesURL p.apiBase g) (.text (Json.roundTrip body))).2 := by
  unfold comment
  split
  · exact .inl rfl
  · exact .inr rfl

end Actions

end AsanaProvider

end Erg
