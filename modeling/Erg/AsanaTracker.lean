import Erg.Asana

/-! # An Asana server

The provider is a client; this module gives it a server.  An `AsanaTracker` holds what
the endpoints the provider calls read and write: workspaces, each with the ordered list
of `(GID, name)` tags its tags endpoint returns; projects, each listing its tasks; and
tasks, each carrying a set of tag GIDs and a list of stories.  `AsanaTracker.api` answers
every URL the provider builds from that state, as Asana does:

* the tasks endpoint of a project lists its incomplete tasks (`completed_since=now`),
  each with the names its workspace gives the tags it carries;
* the workspaces, projects and tags endpoints list what the state holds, the projects
  of a workspace on one page;
* `POST /tasks/{gid}/removeTag` deletes the posted GID from the task's set, whether the
  task carried it or not, and `POST /tasks/{gid}/stories` appends a story (`201`);
* any other URL is `404 Not Found`.

Every endpoint is then described by one lemma in terms of lookups by GID
(`api_tasks`, `api_tags`, ...), so that no later proof looks inside the routing: the URL
builders of the provider are injective in the GID they embed (`gidURL_inj`).  What the
provider's calls do against the server follows: `FetchIssues` (`fetchIssues_tracker_eq`)
and `RemoveLabel` (`removeLabel_effect`).
-/
namespace Erg

/-! ## State -/

/-- A task as the server stores it. -/
structure AsanaTaskRecord where
  gid : GoString
  /-- The GID of the task's workspace. -/
  workspace : GoString
  name : GoString
  notes : GoString
  permalink : GoString
  completed : Bool
  /-- The GIDs of the tags the task carries. -/
  tags : List GoString
  stories : List GoString
deriving DecidableEq, Repr

/-- A workspace, with its tags in the order its tags endpoint lists them. -/
structure AsanaWorkspaceRecord where
  gid : GoString
  name : GoString
  tags : List AsanaTagEntry
deriving DecidableEq, Repr

/-- A project, with the GIDs of its tasks in order. -/
structure AsanaProjectRecord where
  gid : GoString
  workspace : GoString
  name : GoString
  tasks : List GoString
deriving DecidableEq, Repr

/-- What an Asana server holds. -/
structure AsanaTracker where
  workspaces : List AsanaWorkspaceRecord
  projects : List AsanaProjectRecord
  tasks : List AsanaTaskRecord
deriving DecidableEq, Repr

/-- The reply to a GET of a resource that may not exist. -/
def found {α : Type} : Option α → Reply α
  | some a => .response 200 (.ok a)
  | none => .response 404 (.error [])

namespace AsanaTracker
open AsanaProvider

variable (s : AsanaTracker)

/-- The task with GID `gid`. -/
def task? (gid : GoString) : Option AsanaTaskRecord := s.tasks.find? fun t => t.gid = gid

/-- The project with GID `gid`. -/
def project? (gid : GoString) : Option AsanaProjectRecord :=
  s.projects.find? fun pr => pr.gid = gid

/-- The workspace with GID `gid`. -/
def workspace? (gid : GoString) : Option AsanaWorkspaceRecord :=
  s.workspaces.find? fun w => w.gid = gid

/-- The name workspace `ws` gives tag `g`. -/
def tagName? (ws g : GoString) : Option GoString :=
  (s.workspace? ws).bind fun w => (w.tags.find? fun e => e.gid = g).map (·.name)

/-- A task as the tasks endpoint reports it: the names of the tags it carries. -/
def render (t : AsanaTaskRecord) : AsanaTask :=
  { gid := t.gid, name := t.name, notes := t.notes, permalink := t.permalink,
    tags := t.tags.filterMap fun g => (s.tagName? t.workspace g).map AsanaTag.mk }

/-- The tasks endpoint of a project: its incomplete tasks, in the project's order. -/
def projectTasks (pr : AsanaProjectRecord) : List AsanaTask :=
  pr.tasks.filterMap fun g => ((s.task? g).filter fun t => !t.completed).map s.render

/-- The projects of workspace `ws`. -/
def workspaceProjects (ws : GoString) : List AsanaProject :=
  (s.projects.filter fun pr => pr.workspace = ws).map fun pr => ⟨pr.gid, pr.name⟩

/-- The tag `findTagGID` looks for: the first tag of workspace `ws` whose name
`EqualFold`s `L`. -/
def matchingTag? (uc : UnicodeCase) (ws L : GoString) : Option AsanaTagEntry :=
  (s.workspace? ws).bind fun w => w.tags.find? fun e => Strings.equalFold uc e.name L

/-- Apply `f` to the task with GID `gid`. -/
def updateTask (gid : GoString) (f : AsanaTaskRecord → AsanaTaskRecord) : AsanaTracker :=
  { s with tasks := s.tasks.map fun t => if t.gid = gid then f t else t }

/-- Take tag `tag` off task `gid`. -/
def removeTag (gid tag : GoString) : AsanaTracker :=
  s.updateTask gid fun t => { t with tags := t.tags.filter fun g => g ≠ tag }

/-- Add a story to task `gid`. -/
def addStory (gid text : GoString) : AsanaTracker :=
  s.updateTask gid fun t => { t with stories := t.stories ++ [text] }

/-- The server at API base URL `base`. -/
def api (base : GoString) : AsanaAPI AsanaTracker where
  tasks s url := found ((s.projects.find? fun pr => tasksURL base pr.gid = url).map s.projectTasks)
  workspaces s url :=
    found (if url = workspacesURL base then some (s.workspaces.map fun w => ⟨w.gid, w.name⟩)
      else none)
  projects s url :=
    found ((s.workspaces.find? fun w => projectsURL base w.gid = url).map fun w =>
      ⟨s.workspaceProjects w.gid, none⟩)
  taskWorkspace s url := found ((s.tasks.find? fun t => taskURL base t.gid = url).map (·.workspace))
  tags s url := found ((s.workspaces.find? fun w => tagsURL base w.gid = url).map (·.tags))
  post s url
    | .tag g =>
      match s.tasks.find? fun t => removeTagURL base t.gid = url with
      | some t => (.response 200 (.ok ()), s.removeTag t.gid g)
      | none => (.response 404 (.error []), s)
    | .text body =>
      match s.tasks.find? fun t => storiesURL base t.gid = url with
      | some t => (.response 201 (.ok ()), s.addStory t.gid body)
      | none => (.response 404 (.error []), s)

/-! ## Routing

What each endpoint answers at the URL the provider builds for a GID. -/

section Routing
variable {s : AsanaTracker} {base g x : GoString}

theorem found_eq_ok {α : Type} {o : Option α} {a : α} :
    found o = .response 200 (.ok a) ↔ o = some a := by
  cases o <;> simp [found]

theorem task?_gid {t : AsanaTaskRecord} (h : s.task? g = some t) : t.gid = g := by
  simpa using List.find?_some h

@[simp] theorem api_tasks :
    (api base).tasks s (tasksURL base g) = found ((s.project? g).map s.projectTasks) := by
  simp [api, project?, tasksURL]

@[simp] theorem api_taskWorkspace :
    (api base).taskWorkspace s (taskURL base g) = found ((s.task? g).map (·.workspace)) := by
  simp [api, task?, taskURL]

@[simp] theorem api_tags :
    (api base).tags s (tagsURL base g) = found ((s.workspace? g).map (·.tags)) := by
  simp [api, workspace?, tagsURL]

theorem api_post_removeTag :
    (api base).post s (removeTagURL base g) (.tag x) =
      if (s.task? g).isSome then (.response 200 (.ok ()), s.removeTag g x)
      else (.response 404 (.error []), s) := by
  simp only [api, removeTagURL, gidURL_inj]
  change (match s.task? g with | some t => _ | none => _) = _
  cases h : s.task? g with
  | none => rfl
  | some t => simp [task?_gid h]

theorem api_post_stories :
    (api base).post s (storiesURL base g) (.text x) =
      if (s.task? g).isSome then (.response 201 (.ok ()), s.addStory g x)
      else (.response 404 (.error []), s) := by
  simp only [api, storiesURL, gidURL_inj]
  change (match s.task? g with | some t => _ | none => _) = _
  cases h : s.task? g with
  | none => rfl
  | some t => simp [task?_gid h]

end Routing

/-! ## Updates -/

section Updates
variable {s : AsanaTracker} {g x : GoString} {f : AsanaTaskRecord → AsanaTaskRecord}

@[simp] theorem updateTask_workspaces : (s.updateTask g f).workspaces = s.workspaces := rfl

@[simp] theorem updateTask_projects : (s.updateTask g f).projects = s.projects := rfl

@[simp] theorem render_updateTask : (s.updateTask g f).render = s.render := rfl

@[simp] theorem project?_updateTask : (s.updateTask g f).project? = s.project? := rfl

/-- An update that keeps GIDs is seen by every lookup of the task it updates. -/
theorem task?_updateTask (hf : ∀ t, (f t).gid = t.gid) (g' : GoString) :
    (s.updateTask g f).task? g' = (s.task? g').map fun t => if t.gid = g then f t else t := by
  simp only [task?, updateTask, List.find?_map]
  congr 2
  funext t
  by_cases h : t.gid = g <;> simp [h, hf]

theorem task?_removeTag :
    (s.removeTag g x).task? g =
      (s.task? g).map fun t => { t with tags := t.tags.filter fun e => e ≠ x } := by
  rw [removeTag, task?_updateTask]
  · cases h : s.task? g with
    | none => rfl
    | some t => simp [task?_gid h]
  · exact fun _ => rfl

/-- A task carries a tag whose reported name satisfies `P` exactly when one of its GIDs
is named, in its workspace, by such a name. -/
theorem any_render_tags {t : AsanaTaskRecord} {P : AsanaTag → Bool} :
    (s.render t).tags.any P ↔ ∃ e ∈ t.tags, ∃ n, s.tagName? t.workspace e = some n ∧ P ⟨n⟩ := by
  simp only [render, List.any_eq_true, List.mem_filterMap, Option.map_eq_some']
  constructor
  · rintro ⟨_, ⟨e, he, n, hn, rfl⟩, hP⟩
    exact ⟨e, he, n, hn, hP⟩
  · rintro ⟨e, he, n, hn, hP⟩
    exact ⟨_, ⟨e, he, n, hn, rfl⟩, hP⟩

end Updates

/-! ## `RemoveLabel` and `FetchIssues` against the server -/

section Provider
variable {s : AsanaTracker} {uc : UnicodeCase} {p : AsanaProvider} {pat g L : GoString}

/-- A `RemoveLabel` that returns `nil` took the workspace's first tag matching `L` off
the task, whether the task carried that tag or not. -/
theorem removeLabel_ok_state (h : (removeLabel uc (api p.apiBase) s p pat g L).1 = .ok ()) :
    pat ≠ [] ∧ ∃ t tag, s.task? g = some t ∧ s.matchingTag? uc t.workspace L = some tag ∧
      (removeLabel uc (api p.apiBase) s p pat g L).2 = s.removeTag g tag.gid := by
  obtain ⟨hpat, tagGID, hf, -, hst⟩ := removeLabel_ok uc _ _ _ h
  obtain ⟨ws, tags, tag, h1, -, h2, h3, rfl⟩ := (findTagGID_ok uc _ _ _).mp hf
  rw [api_taskWorkspace, found_eq_ok, Option.map_eq_some'] at h1
  obtain ⟨t, ht, rfl⟩ := h1
  rw [api_tags, found_eq_ok, Option.map_eq_some'] at h2
  obtain ⟨w, hw, rfl⟩ := h2
  rw [api_post_removeTag, ht] at hst
  exact ⟨hpat, t, tag, ht, by simp [matchingTag?, hw, h3], hst⟩

/-- **`FetchIssues` against the server.**  Past the two configuration checks, a project
the server does not hold is `404 Not Found`, and a project it holds gives its incomplete
tasks, filtered by tag. -/
theorem fetchIssues_tracker_eq {f : FilterConfig} :
    fetchIssues uc (api p.apiBase) s p pat f =
      if pat = [] then .error (.errorf "ASANA_PAT environment variable not set" [])
      else if f.project = [] then
        .error (.errorf "Asana project GID not configured for this repository" [])
      else match s.project? f.project with
        | none => .error (.errorf "Asana API returned status %d" [.int 404])
        | some pr => .ok ((if f.label = [] then s.projectTasks pr
            else (s.projectTasks pr).filter fun t =>
              t.tags.any fun e => Strings.equalFold uc e.name f.label).map toIssue) := by
  by_cases hpat : pat = []
  · simp [fetchIssues, hpat]; rfl
  by_cases hproject : f.project = []
  · simp [fetchIssues, hpat, hproject]; rfl
  rw [fetchIssues_eq uc _ _ _ hpat hproject, api_tasks, if_neg hpat, if_neg hproject]
  cases s.project? f.project <;> rfl

theorem fetchIssues_tracker {f : FilterConfig} {pr : AsanaProjectRecord} (hpat : pat ≠ [])
    (hproject : f.project ≠ []) (hpr : s.project? f.project = some pr) :
    fetchIssues uc (api p.apiBase) s p pat f =
      .ok ((if f.label = [] then s.projectTasks pr
          else (s.projectTasks pr).filter fun t =>
            t.tags.any fun e => Strings.equalFold uc e.name f.label).map toIssue) := by
  rw [fetchIssues_tracker_eq, if_neg hpat, if_neg hproject, hpr]

/-- Task `g` is among the issues of a project's filtered task list exactly when the
project lists it, it is incomplete, and it passes the filter. -/
theorem exists_fetched_iff {pr : AsanaProjectRecord} {P : AsanaTask → Bool} :
    (∃ i ∈ ((s.projectTasks pr).filter P).map toIssue, i.id = g) ↔
      g ∈ pr.tasks ∧ ∃ t, s.task? g = some t ∧ t.completed = false ∧ P (s.render t) := by
  simp only [List.mem_map, List.mem_filter, projectTasks, List.mem_filterMap, Option.map_eq_some',
    Option.filter_eq_some, Bool.not_eq_true']
  constructor
  · rintro ⟨_, ⟨_, ⟨⟨g', hg', t, ⟨ht, hc⟩, rfl⟩, hP⟩, rfl⟩, hid⟩
    obtain rfl : g' = g := (task?_gid ht).symm.trans hid
    exact ⟨hg', t, ht, hc, hP⟩
  · rintro ⟨hg, t, ht, hc, hP⟩
    exact ⟨_, ⟨_, ⟨⟨g, hg, t, ⟨ht, hc⟩, rfl⟩, hP⟩, rfl⟩, task?_gid ht⟩

/-- **What a successful `RemoveLabel` did.**  `RemoveLabel` of label `L` from task `g`
returned `nil` on server `s`, having found the task `t` and the tag `tag`: the first tag
of the task's workspace whose name matches `L`.  It took that tag off the task and
changed nothing else, and afterwards `FetchIssues` with label `L` still returns the task
exactly when the task carries another tag whose name matches `L`. -/
structure RemovedFirstMatch (s : AsanaTracker) (uc : UnicodeCase) (p : AsanaProvider)
    (pat g L : GoString) (t : AsanaTaskRecord) (tag : AsanaTagEntry) : Prop where
  task : s.task? g = some t
  first_match : s.matchingTag? uc t.workspace L = some tag
  state : (removeLabel uc (api p.apiBase) s p pat g L).2 = s.removeTag g tag.gid
  fetched_iff : ∀ (f : FilterConfig) (pr : AsanaProjectRecord), f.label = L → L ≠ [] →
    f.project ≠ [] → s.project? f.project = some pr →
    ∃ issues, fetchIssues uc (api p.apiBase) (s.removeTag g tag.gid) p pat f = .ok issues ∧
      ((∃ i ∈ issues, i.id = g) ↔ g ∈ pr.tasks ∧ t.completed = false ∧
        ∃ e ∈ t.tags, e ≠ tag.gid ∧ ∃ n, s.tagName? t.workspace e = some n ∧
          Strings.equalFold uc n L)

theorem removeLabel_effect (h : (removeLabel uc (api p.apiBase) s p pat g L).1 = .ok ()) :
    ∃ t tag, s.RemovedFirstMatch uc p pat g L t tag := by
  obtain ⟨hpat, t, tag, ht, htag, hst⟩ := removeLabel_ok_state h
  refine ⟨t, tag, ht, htag, hst, ?_⟩
  rintro f pr rfl hL hproject hpr
  refine ⟨_, fetchIssues_tracker hpat hproject hpr, ?_⟩
  rw [if_neg hL, exists_fetched_iff, task?_removeTag, ht]
  simp only [Option.map_some', Option.some.injEq, exists_eq_left', removeTag, render_updateTask,
    any_render_tags, List.mem_filter, decide_eq_true_eq, and_assoc]

end Provider

end AsanaTracker

end Erg
