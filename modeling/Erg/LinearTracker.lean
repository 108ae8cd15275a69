import Erg.Linear
import Mathlib.Data.List.Nodup

/-! # A Linear server

The Linear counterpart of `AsanaTracker`.  A `LinearTracker` holds teams, labels
`(id, name)` and issues; an issue belongs to a team, is active or not (its state type
is `completed` or `canceled`, or neither), carries a set of label ids and a list of
comments.  Issue identifiers (`ENG-123`) are unique, and the state carries that as a
field: `FetchIssues` hands identifiers to the daemon, so this is what makes "the issue
is returned" mean one issue.  The server also fixes how many nodes it answers to a
connection queried without `first:` (`pageSize`, 50 on Linear).

`LinearTracker.api` answers the provider's GraphQL operations at `{base}/graphql`, as
Linear does:

* the team-issues query answers the first page of the issues it matches (`queue`): the
  team's active issues, those carrying a label whose name `eqIgnoreCase`s the label when
  one is given.  The provider asks for no page size and follows no cursor, so an issue
  past the first page is not returned;
* the label search lists every label whose name `eqIgnoreCase`s the query;
* `issueLabelDisconnect` deletes the label id from the issue's set, and `commentCreate`
  appends a comment; either answers `200 OK` also when the issue does not exist or does
  not carry the label, since GraphQL reports such errors in the body, which the
  provider does not read;
* a POST anywhere else is `404 Not Found`.

Linear's `eqIgnoreCase` is modelled as `strings.EqualFold` under the same case tables
`uc` as the provider's own comparisons.  What the provider's calls do against the server
follows: `FetchIssues` (`fetchIssues_tracker_eq`) and `RemoveLabel` (`removeLabel_effect`).
-/
namespace Erg

/-! ## State -/

/-- An issue as the server stores it. -/
structure LinearIssueRecord where
  /-- The UUID, which the mutations take. -/
  id : GoString
  /-- The human identifier (`ENG-123`), which `FetchIssues` reports as the issue's ID. -/
  identifier : GoString
  /-- The ID of the issue's team. -/
  team : GoString
  title : GoString
  description : GoString
  url : GoString
  /-- The state type is neither `completed` nor `canceled`. -/
  active : Bool
  /-- The ids of the labels the issue carries. -/
  labels : List GoString
  comments : List GoString
deriving DecidableEq, Repr

/-- What a Linear server holds. -/
structure LinearTracker where
  teams : List LinearTeam
  labels : List LinearLabel
  issues : List LinearIssueRecord
  /-- How many nodes the server answers to a connection queried without `first:`: the
  first page, of 50 nodes on Linear. -/
  pageSize : Nat
  identifiers_nodup : (issues.map (·.identifier)).Nodup

namespace LinearTracker
open LinearProvider

variable (s : LinearTracker) (uc : UnicodeCase)

/-- The issue with UUID `id`. -/
def issue? (id : GoString) : Option LinearIssueRecord := s.issues.find? fun i => i.id = id

/-- The name of label `lid`. -/
def labelName? (lid : GoString) : Option GoString :=
  (s.labels.find? fun l => l.id = lid).map (·.name)

/-- The issue carries a label whose name `eqIgnoreCase`s `label`. -/
def carries (i : LinearIssueRecord) (label : GoString) : Bool :=
  i.labels.any fun lid => (s.labelName? lid).any fun n => Strings.equalFold uc n label

/-- An issue as a node of the team-issues query. -/
def node (i : LinearIssueRecord) : LinearIssue :=
  { id := i.id, identifier := i.identifier, title := i.title, description := i.description,
    url := i.url }

/-- The issues the team-issues query matches, in the server's order: the team's active
issues, those carrying `label` when one is given. -/
def queue (team : GoString) (label : Option GoString) : List LinearIssueRecord :=
  s.issues.filter fun i => i.team = team && i.active && label.all fun l => s.carries uc i l

/-- The nodes of the team-issues query: the first page of the issues it matches. -/
def teamIssues (team : GoString) (label : Option GoString) : List LinearIssue :=
  ((s.queue uc team label).take s.pageSize).map node

/-- The issues of the queue `FetchIssues` with filter `f` reads, all of them, as it would
report them. -/
def queuedIssues (f : FilterConfig) : List Issue :=
  (s.queue uc f.team (if f.label = [] then none else some f.label)).map fun i => toIssue (node i)

/-- Apply `f`, which keeps identifiers, to the issue with UUID `id`. -/
def updateIssue (id : GoString) (f : LinearIssueRecord → LinearIssueRecord)
    (hf : ∀ i, (f i).identifier = i.identifier) : LinearTracker :=
  { s with
    issues := s.issues.map fun i => if i.id = id then f i else i
    identifiers_nodup := by
      rw [List.map_map]
      convert s.identifiers_nodup using 2
      funext i
      by_cases h : i.id = id <;> simp [h, hf] }

/-- Take label `lid` off issue `id`. -/
def disconnect (id lid : GoString) : LinearTracker :=
  s.updateIssue id (fun i => { i with labels := i.labels.filter fun l => l ≠ lid }) fun _ => rfl

/-- Add a comment to issue `id`. -/
def addComment (id body : GoString) : LinearTracker :=
  s.updateIssue id (fun i => { i with comments := i.comments ++ [body] }) fun _ => rfl

/-- The server at API base URL `base`. -/
def api (base : GoString) : LinearAPI LinearTracker where
  teamIssues s url team label :=
    if url = graphqlURL base then .response 200 (.ok (s.teamIssues uc team label))
    else .response 404 (.error [])
  issueLabels s url label :=
    if url = graphqlURL base then
      .response 200 (.ok (s.labels.filter fun l => Strings.equalFold uc l.name label))
    else .response 404 (.error [])
  issueLabelDisconnect s url id lid :=
    if url = graphqlURL base then (.response 200 (.ok ()), s.disconnect id lid)
    else (.response 404 (.error []), s)
  commentCreate s url id body :=
    if url = graphqlURL base then (.response 200 (.ok ()), s.addComment id body)
    else (.response 404 (.error []), s)
  teams s url :=
    if url = graphqlURL base then .response 200 (.ok s.teams) else .response 404 (.error [])

/-! ## Routing -/

section Routing
variable {s : LinearTracker} {uc : UnicodeCase} {base : GoString}

@[simp] theorem api_teamIssues (team : GoString) (label : Option GoString) :
    (api uc base).teamIssues s (graphqlURL base) team label =
      .response 200 (.ok (s.teamIssues uc team label)) := if_pos rfl

@[simp] theorem api_issueLabels (label : GoString) :
    (api uc base).issueLabels s (graphqlURL base) label =
      .response 200 (.ok (s.labels.filter fun l => Strings.equalFold uc l.name label)) :=
  if_pos rfl

@[simp] theorem api_issueLabelDisconnect (id lid : GoString) :
    (api uc base).issueLabelDisconnect s (graphqlURL base) id lid =
      (.response 200 (.ok ()), s.disconnect id lid) := if_pos rfl

@[simp] theorem api_commentCreate (id body : GoString) :
    (api uc base).commentCreate s (graphqlURL base) id body =
      (.response 200 (.ok ()), s.addComment id body) := if_pos rfl

end Routing

/-! ## Updates -/

section Updates
variable {s : LinearTracker} {uc : UnicodeCase} {id : GoString}
  {f : LinearIssueRecord → LinearIssueRecord} {hf : ∀ i, (f i).identifier = i.identifier}

@[simp] theorem updateIssue_labels : (s.updateIssue id f hf).labels = s.labels := rfl

@[simp] theorem carries_updateIssue : (s.updateIssue id f hf).carries uc = s.carries uc := rfl

theorem mem_updateIssue {i : LinearIssueRecord} (hi : i ∈ s.issues) (hid : i.id = id) :
    f i ∈ (s.updateIssue id f hf).issues :=
  List.mem_map.mpr ⟨i, hi, if_pos hid⟩

theorem issue?_mem {i : LinearIssueRecord} (h : s.issue? id = some i) : i ∈ s.issues :=
  List.mem_of_find?_eq_some h

theorem issue?_id {i : LinearIssueRecord} (h : s.issue? id = some i) : i.id = id := by
  simpa using List.find?_some h

/-- Two issues of the server with one identifier are one issue. -/
theorem eq_of_identifier {i j : LinearIssueRecord} (hi : i ∈ s.issues) (hj : j ∈ s.issues)
    (h : i.identifier = j.identifier) : i = j :=
  List.inj_on_of_nodup_map s.identifiers_nodup hi hj h

/-- What `carries` asks, as a statement. -/
theorem carries_iff {i : LinearIssueRecord} {label : GoString} :
    s.carries uc i label ↔
      ∃ lid ∈ i.labels, ∃ n, s.labelName? lid = some n ∧ Strings.equalFold uc n label := by
  simp only [carries, List.any_eq_true]
  refine exists_congr fun lid => and_congr_right fun _ => ?_
  cases s.labelName? lid <;> simp

/-- A label id that has a name is the id of a label of the server, under that name. -/
theorem exists_label_of_labelName? {lid n : GoString} (h : s.labelName? lid = some n) :
    ∃ l ∈ s.labels, l.id = lid ∧ l.name = n := by
  obtain ⟨l, hl, rfl⟩ := Option.map_eq_some'.mp h
  exact ⟨l, List.mem_of_find?_eq_some hl, by simpa using List.find?_some hl, rfl⟩

end Updates

/-! ## `RemoveLabel` and `FetchIssues` against the server -/

section Provider
variable {s : LinearTracker} {uc : UnicodeCase} {p : LinearProvider} {key g L : GoString}

/-- An issue of the server is in the query's queue, under its identifier, exactly when it
passes the query's filter. -/
theorem exists_queued_iff {i : LinearIssueRecord} (hi : i ∈ s.issues) {team : GoString}
    {label : Option GoString} :
    (∃ j ∈ s.queue uc team label, j.identifier = i.identifier) ↔
      i.team = team ∧ i.active = true ∧ label.all (s.carries uc i) = true := by
  simp only [queue, List.mem_filter]
  constructor
  · rintro ⟨r, hr, hid⟩
    obtain rfl := eq_of_identifier hr.1 hi hid
    simpa [and_assoc] using hr.2
  · exact fun h => ⟨i, ⟨hi, by simpa [and_assoc] using h⟩, rfl⟩

/-- `FetchIssues` reports the first page of the queue. -/
theorem teamIssues_toIssue {f : FilterConfig} :
    (s.teamIssues uc f.team (if f.label = [] then none else some f.label)).map toIssue =
      (s.queuedIssues uc f).take s.pageSize := by
  simp only [teamIssues, queuedIssues, List.map_map, List.map_take]
  rfl

/-- Every issue the team-issues query returns is one of its queue. -/
theorem exists_queued_of_fetched {team : GoString} {label : Option GoString} {j : Issue}
    (hj : j ∈ (s.teamIssues uc team label).map toIssue) :
    ∃ i ∈ s.queue uc team label, j.id = i.identifier := by
  obtain ⟨n, hn, rfl⟩ := List.mem_map.mp hj
  obtain ⟨i, hi, rfl⟩ := List.mem_map.mp hn
  exact ⟨i, List.mem_of_mem_take hi, rfl⟩

/-- `FetchIssues` against the server: the first page of the team's queue for the label. -/
theorem fetchIssues_tracker {f : FilterConfig} (hkey : key ≠ []) (hteam : f.team ≠ []) :
    fetchIssues (api uc p.apiBase) s p key f =
      .ok ((s.teamIssues uc f.team (if f.label = [] then none else some f.label)).map toIssue) := by
  rw [fetchIssues_eq _ _ _ hkey hteam]
  simp only [api_teamIssues]
  rfl

/-- **`FetchIssues` against the server.**  Past the two configuration checks, the first
page of the team's active issues that carry the label. -/
theorem fetchIssues_tracker_eq {f : FilterConfig} :
    fetchIssues (api uc p.apiBase) s p key f =
      if key = [] then .error (.errorf "LINEAR_API_KEY environment variable not set" [])
      else if f.team = [] then
        .error (.errorf "Linear team ID not configured for this repository" [])
      else .ok ((s.teamIssues uc f.team (if f.label = [] then none else some f.label)).map
        toIssue) := by
  by_cases hkey : key = []
  · simp [fetchIssues, hkey]; rfl
  by_cases hteam : f.team = []
  · simp [fetchIssues, hkey, hteam]; rfl
  rw [fetchIssues_tracker hkey hteam, if_neg hkey, if_neg hteam]

/-- A `RemoveLabel` that returns `nil` disconnected the first label whose name matches
`L`, whether the issue carried it or not. -/
theorem removeLabel_ok_state (h : (removeLabel (api uc p.apiBase) s p key g L).1 = .ok ()) :
    key ≠ [] ∧ ∃ lab, s.labels.find? (fun l => Strings.equalFold uc l.name L) = some lab ∧
      (removeLabel (api uc p.apiBase) s p key g L).2 = s.disconnect g lab.id := by
  obtain ⟨hkey, node, rest, hl, -, hst⟩ := LinearProvider.removeLabel_ok _ _ _ h
  simp only [api_issueLabels, Reply.response.injEq, Except.ok.injEq, true_and] at hl
  rw [api_issueLabelDisconnect] at hst
  exact ⟨hkey, node, by rw [← List.filter_head?, hl]; rfl, hst⟩

/-- **What a successful `RemoveLabel` did.**  `RemoveLabel` of label `L` from issue `g`
returned `nil` on server `s`, having found the label `lab`: the first label whose name
matches `L`.  It took that label off the issue and changed nothing else, and afterwards
the issue is in the queue of label `L` (of which `FetchIssues` shows the first page)
exactly when it carries another label whose name matches `L`. -/
structure RemovedFirstMatch (s : LinearTracker) (uc : UnicodeCase) (p : LinearProvider)
    (key g L : GoString) (lab : LinearLabel) : Prop where
  first_match : s.labels.find? (fun l => Strings.equalFold uc l.name L) = some lab
  state : (removeLabel (api uc p.apiBase) s p key g L).2 = s.disconnect g lab.id
  queued_iff : ∀ (team : GoString) (i : LinearIssueRecord), s.issue? g = some i →
    ((∃ j ∈ (s.disconnect g lab.id).queue uc team (some L), j.identifier = i.identifier) ↔
      i.team = team ∧ i.active = true ∧
        ∃ lid ∈ i.labels, lid ≠ lab.id ∧ ∃ n, s.labelName? lid = some n ∧
          Strings.equalFold uc n L)

theorem removeLabel_effect (h : (removeLabel (api uc p.apiBase) s p key g L).1 = .ok ()) :
    ∃ lab, s.RemovedFirstMatch uc p key g L lab := by
  obtain ⟨-, lab, hlab, hst⟩ := removeLabel_ok_state h
  refine ⟨lab, hlab, hst, fun team i hi => ?_⟩
  refine (exists_queued_iff (mem_updateIssue (issue?_mem hi) (issue?_id hi))).trans ?_
  simp [disconnect, carries_iff, and_assoc]

end Provider

end LinearTracker

end Erg
