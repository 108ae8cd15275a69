import Erg.AsanaTracker
import Erg.LinearTracker

/-! # The queue across provider actions

`FetchIssues` with the queue label is the daemon's queue, and the daemon changes a
tracker only through `ProviderActions`: `RemoveLabel` and `Comment`.  This module
follows a server through any sequence of such calls, whatever each of them returns, and
proves that the queue only drains:

* one call takes tags (labels) off one issue or appends a story (comment), and changes
  nothing else (`Drains`; `drains_removeLabel`, `drains_comment`);
* so does a whole run (`drains_run`), and `FetchIssues` after the run returns a sublist
  of what it returned before, or fails as it did before (`tasks_never_requeued`,
  `issues_never_requeued`): no issue enters the queue.

Which issue leaves the queue is `RemoveLabel`'s business.  `RemoveLabel` shows that a
successful call may leave it in; here, when the server has only one tag (label) whose
name matches, a successful `RemoveLabel` takes the issue out of the queue
(`removeLabel_dequeues_of_unique_tag`, `removeLabel_dequeues_of_unique_label`).
-/
namespace Erg

/-- One call of `ProviderActions`, as the daemon makes it. -/
inductive ProviderAction where
  | removeLabel (issueID label : GoString)
  | comment (issueID body : GoString)
deriving DecidableEq, Repr

/-! ## Two facts about lists -/

/-- Dropping the elements one of two partial maps drops, and keeping what both keep,
gives a sublist. -/
theorem filterMap_sublist_of_imp {α β : Type} {f f' : α → Option β} :
    ∀ {l : List α}, (∀ a ∈ l, ∀ b, f' a = some b → f a = some b) →
      List.Sublist (l.filterMap f') (l.filterMap f)
  | [], _ => .slnil
  | a :: l, h => by
    have ih := filterMap_sublist_of_imp fun a ha => h a (.tail _ ha)
    cases hf' : f' a with
    | none =>
      rw [List.filterMap_cons_none hf']
      cases hf : f a with
      | none => rwa [List.filterMap_cons_none hf]
      | some b => rw [List.filterMap_cons_some hf]; exact ih.cons _
    | some b =>
      rw [List.filterMap_cons_some hf', List.filterMap_cons_some (h a (.head _) b hf')]
      exact ih.cons₂ _

/-- Filtering two related lists, the second by a stronger test, and mapping related
elements to the same value, gives a sublist. -/
theorem forall₂_filter_map_sublist {α α' β : Type} {R : α → α' → Prop} {P : α → Bool}
    {P' : α' → Bool} {g : α → β} {g' : α' → β} (hR : ∀ a a', R a a' → P' a' → P a ∧ g' a' = g a) :
    ∀ {l : List α} {l' : List α'}, List.Forall₂ R l l' →
      List.Sublist ((l'.filter P').map g') ((l.filter P).map g)
  | _, _, .nil => .slnil
  | a :: _, a' :: _, .cons hr t => by
    have ih := forall₂_filter_map_sublist hR t
    by_cases hp' : P' a'
    · obtain ⟨hp, hg⟩ := hR a a' hr hp'
      simpa [List.filter_cons, hp, hp', hg] using ih
    · by_cases hp : P a
      · simpa [List.filter_cons, hp, hp'] using ih.cons _
      · simpa [List.filter_cons, hp, hp'] using ih

/-! ## Asana -/

namespace AsanaTracker
open AsanaProvider

/-- What the provider's actions can do to a task: take tags off and append stories. -/
structure TaskDrains (t t' : AsanaTaskRecord) : Prop where
  rest : { t' with tags := [], stories := [] } = { t with tags := [], stories := [] }
  tags : t'.tags ⊆ t.tags
  stories : t.stories <+: t'.stories

namespace TaskDrains
variable {t t' t'' : AsanaTaskRecord}

theorem refl (t : AsanaTaskRecord) : TaskDrains t t :=
  ⟨rfl, List.Subset.refl _, List.prefix_refl _⟩

theorem trans (h₁ : TaskDrains t t') (h₂ : TaskDrains t' t'') : TaskDrains t t'' :=
  ⟨h₂.rest.trans h₁.rest, h₂.tags.trans h₁.tags, h₁.stories.trans h₂.stories⟩

theorem rel_trans :
    ∀ {x y z : Option AsanaTaskRecord}, Option.Rel TaskDrains x y → Option.Rel TaskDrains y z →
      Option.Rel TaskDrains x z
  | _, _, _, .some h₁, .some h₂ => .some (h₁.trans h₂)
  | _, _, _, .none, .none => .none

theorem gid_eq (h : TaskDrains t t') : t'.gid = t.gid := (congrArg AsanaTaskRecord.gid h.rest :)

theorem completed_eq (h : TaskDrains t t') : t'.completed = t.completed :=
  (congrArg AsanaTaskRecord.completed h.rest :)

theorem toIssue_render {s s' : AsanaTracker} (h : TaskDrains t t') :
    toIssue (s'.render t') = toIssue (s.render t) := by
  have := h.rest
  simp only [AsanaTaskRecord.mk.injEq] at this
  simp [toIssue, render, this]

end TaskDrains

/-- What the provider's actions can do to an Asana server: workspaces and projects stay,
and each task drains. -/
structure Drains (s s' : AsanaTracker) : Prop where
  workspaces : s'.workspaces = s.workspaces
  projects : s'.projects = s.projects
  task? : ∀ g, Option.Rel TaskDrains (s.task? g) (s'.task? g)

namespace Drains
variable {s s' s'' : AsanaTracker}

theorem refl (s : AsanaTracker) : Drains s s :=
  ⟨rfl, rfl, fun g => by cases s.task? g <;> constructor; exact .refl _⟩

theorem trans (h₁ : Drains s s') (h₂ : Drains s' s'') : Drains s s'' :=
  ⟨h₂.workspaces.trans h₁.workspaces, h₂.projects.trans h₁.projects,
    fun g => TaskDrains.rel_trans (h₁.task? g) (h₂.task? g)⟩

theorem updateTask {g : GoString} {f : AsanaTaskRecord → AsanaTaskRecord}
    (hf : ∀ t, TaskDrains t (f t)) : Drains s (s.updateTask g f) := by
  refine ⟨rfl, rfl, fun g' => ?_⟩
  rw [task?_updateTask fun t => (hf t).gid_eq]
  cases s.task? g' with
  | none => exact .none
  | some t => exact .some (by dsimp only; split <;> first | exact hf t | exact .refl t)

theorem project?_eq (h : Drains s s') : s'.project? = s.project? := by
  funext g
  simp only [project?, h.projects]

/-- Under a drain, a task reports a subset of the tag names it reported before. -/
theorem render_tags_subset (h : Drains s s') {t t' : AsanaTaskRecord} (ht : TaskDrains t t') :
    (s'.render t').tags ⊆ (s.render t).tags := by
  have hw : t'.workspace = t.workspace := (congrArg AsanaTaskRecord.workspace ht.rest :)
  have hn : s'.tagName? = s.tagName? := by
    funext ws e
    simp only [tagName?, workspace?, h.workspaces]
  intro a ha
  simp only [render, List.mem_filterMap, hw, hn] at ha ⊢
  obtain ⟨e, he, hname⟩ := ha
  exact ⟨e, ht.tags he, hname⟩

end Drains

variable {s s' : AsanaTracker}

theorem drains_removeTag (g x : GoString) : Drains s (s.removeTag g x) :=
  Drains.updateTask fun _ => ⟨rfl, List.filter_subset' _, List.prefix_refl _⟩

theorem drains_addStory (g b : GoString) : Drains s (s.addStory g b) :=
  Drains.updateTask fun _ => ⟨rfl, List.Subset.refl _, List.prefix_append _ _⟩

/-! ### The issues of a project -/

/-- One position of a project's task list: if the drained server shows an issue there
through the filter `P`, which a drain only makes harder to pass, the server before
showed the same issue. -/
theorem fetch_of_rel {x y : Option AsanaTaskRecord} (hr : Option.Rel TaskDrains x y)
    {P : AsanaTask → Bool} (hP : ∀ t t', TaskDrains t t' → P (s'.render t') → P (s.render t))
    {i : Issue}
    (hi : (((y.filter fun t => !t.completed).map s'.render).filter P).map toIssue = some i) :
    (((x.filter fun t => !t.completed).map s.render).filter P).map toIssue = some i := by
  cases hr with
  | none => exact hi
  | some ht =>
    rename_i t t'
    cases hc : t.completed
    · have hc' : t'.completed = false := ht.completed_eq.trans hc
      simp only [Option.filter, hc, hc', Bool.not_false, if_true, Option.map_some'] at hi ⊢
      by_cases hp : P (s'.render t') = true
      · rw [if_pos hp] at hi
        rw [if_pos (hP _ _ ht hp)]
        simp only [Option.map_some', Option.some.injEq] at hi ⊢
        exact ht.toIssue_render.symm.trans hi
      · rw [if_neg hp] at hi
        cases hi
    · simp [Option.filter, hc, ht.completed_eq] at hi

theorem fetched_sublist (h : Drains s s') (pr : AsanaProjectRecord) (P : AsanaTask → Bool)
    (hP : ∀ t t', TaskDrains t t' → P (s'.render t') → P (s.render t)) :
    List.Sublist (((s'.projectTasks pr).filter P).map toIssue)
      (((s.projectTasks pr).filter P).map toIssue) := by
  simp only [projectTasks, List.filter_filterMap, List.map_filterMap]
  exact filterMap_sublist_of_imp fun g _ i hi => fetch_of_rel (h.task? g) hP hi

section Provider
variable {uc : UnicodeCase} {p : AsanaProvider} {pat g L : GoString}

theorem drains_removeLabel : Drains s (removeLabel uc (api p.apiBase) s p pat g L).2 := by
  rcases removeLabel_state uc (api p.apiBase) s p pat g L with h | ⟨x, h⟩
  · rw [h]; exact .refl s
  · rw [h, api_post_removeTag]
    split
    · exact drains_removeTag g x
    · exact .refl s

theorem drains_comment {b : GoString} : Drains s (comment (api p.apiBase) s p pat g b).2 := by
  rcases comment_state (api p.apiBase) s p pat g b with h | h
  · rw [h]; exact .refl s
  · rw [h, api_post_stories]
    split
    · exact drains_addStory g (Json.roundTrip b)
    · exact .refl s

/-- After a drain, `FetchIssues` returns a sublist of what it returned before, or the
same error. -/
theorem fetchIssues_drains (h : Drains s s') {f : FilterConfig} :
    (∃ issues issues', fetchIssues uc (api p.apiBase) s p pat f = .ok issues ∧
        fetchIssues uc (api p.apiBase) s' p pat f = .ok issues' ∧ List.Sublist issues' issues) ∨
      ∃ e, fetchIssues uc (api p.apiBase) s p pat f = .error e ∧
        fetchIssues uc (api p.apiBase) s' p pat f = .error e := by
  rw [fetchIssues_tracker_eq, fetchIssues_tracker_eq, h.project?_eq]
  by_cases hpat : pat = []
  · simp only [if_pos hpat]; exact .inr ⟨_, rfl, rfl⟩
  by_cases hproject : f.project = []
  · simp only [if_neg hpat, if_pos hproject]; exact .inr ⟨_, rfl, rfl⟩
  simp only [if_neg hpat, if_neg hproject]
  cases s.project? f.project with
  | none => exact .inr ⟨_, rfl, rfl⟩
  | some pr =>
    refine .inl ⟨_, _, rfl, rfl, ?_⟩
    by_cases hlabel : f.label = []
    · simp only [if_pos hlabel]
      simpa using fetched_sublist h pr (fun _ => true) fun _ _ _ _ => rfl
    simp only [if_neg hlabel]
    refine fetched_sublist h pr _ fun t t' ht hp => ?_
    obtain ⟨e, he, hpe⟩ := List.any_eq_true.mp hp
    exact List.any_eq_true.mpr ⟨e, h.render_tags_subset ht he, hpe⟩

end Provider

/-! ### Runs -/

/-- The server after one provider action with token `pat`, whatever the action
returned. -/
def step (uc : UnicodeCase) (p : AsanaProvider) (pat : GoString) (s : AsanaTracker) :
    ProviderAction → AsanaTracker
  | .removeLabel g L => (removeLabel uc (api p.apiBase) s p pat g L).2
  | .comment g body => (comment (api p.apiBase) s p pat g body).2

/-- The server after a sequence of provider actions. -/
def run (uc : UnicodeCase) (p : AsanaProvider) (pat : GoString) (s : AsanaTracker)
    (acts : List ProviderAction) : AsanaTracker :=
  acts.foldl (step uc p pat) s

section Run
variable {uc : UnicodeCase} {p : AsanaProvider} {pat pat' : GoString}

theorem drains_step (a : ProviderAction) : Drains s (step uc p pat s a) := by
  cases a with
  | removeLabel g L => exact drains_removeLabel
  | comment g body => exact drains_comment

theorem drains_run (acts : List ProviderAction) : Drains s (run uc p pat s acts) := by
  induction acts generalizing s with
  | nil => exact .refl s
  | cons a acts ih => exact (drains_step a).trans ih

/-- **Provider actions never put a task back in the queue.**  After any sequence of
`RemoveLabel` and `Comment` calls, whatever they returned, `FetchIssues` returns a
sublist of what it returned before, or fails as it failed before. -/
theorem tasks_never_requeued (acts : List ProviderAction) {f : FilterConfig} :
    (∃ issues issues', fetchIssues uc (api p.apiBase) s p pat f = .ok issues ∧
        fetchIssues uc (api p.apiBase) (run uc p pat' s acts) p pat f = .ok issues' ∧
        List.Sublist issues' issues) ∨
      ∃ e, fetchIssues uc (api p.apiBase) s p pat f = .error e ∧
        fetchIssues uc (api p.apiBase) (run uc p pat' s acts) p pat f = .error e :=
  fetchIssues_drains (drains_run acts)

end Run

/-! ### Dequeuing -/

section Dequeue
variable {uc : UnicodeCase} {p : AsanaProvider} {pat g L : GoString}

/-- **With one matching tag, `RemoveLabel` dequeues.**  When no workspace has two tags of
different GIDs whose names match `L`, after a successful `RemoveLabel` of `L` from task
`g`, `FetchIssues` with label `L` returns no issue with ID `g`. -/
theorem removeLabel_dequeues_of_unique_tag (hL : L ≠ [])
    (huniq : ∀ w ∈ s.workspaces, ∀ e ∈ w.tags, ∀ e' ∈ w.tags, Strings.equalFold uc e.name L →
      Strings.equalFold uc e'.name L → e.gid = e'.gid)
    (h : (removeLabel uc (api p.apiBase) s p pat g L).1 = .ok ()) {f : FilterConfig}
    (hf : f.label = L) {issues : List Issue}
    (hfetch : fetchIssues uc (api p.apiBase) (removeLabel uc (api p.apiBase) s p pat g L).2 p pat f =
      .ok issues) :
    ∀ i ∈ issues, i.id ≠ g := by
  obtain ⟨t, tag, ht, htag, hst, hfi⟩ := removeLabel_effect h
  have hpat := (removeLabel_ok_state h).1
  rw [hst] at hfetch
  by_cases hproject : f.project = []
  · simp [fetchIssues_tracker_eq, hpat, hproject] at hfetch
  cases hpr : s.project? f.project with
  | none => simp [fetchIssues_tracker_eq, hpat, hproject, hpr, removeTag] at hfetch
  | some pr =>
    obtain ⟨issues', h₁, hiff⟩ := hfi f pr hf hL hproject hpr
    obtain rfl : issues' = issues := Except.ok.inj (h₁.symm.trans hfetch)
    rintro i hi rfl
    obtain ⟨-, -, e, -, hne, n, hn, hm⟩ := hiff.mp ⟨i, hi, rfl⟩
    simp only [tagName?, Option.bind_eq_some, Option.map_eq_some'] at hn
    obtain ⟨w, hw, entry, hentry, rfl⟩ := hn
    simp only [matchingTag?, hw, Option.some_bind] at htag
    have hwm : w ∈ s.workspaces := List.mem_of_find?_eq_some hw
    have he : entry.gid = e := by simpa using List.find?_some hentry
    refine hne (he.symm.trans (huniq w hwm entry (List.mem_of_find?_eq_some hentry) tag
      (List.mem_of_find?_eq_some htag) (hf ▸ hm) ?_))
    simpa using List.find?_some htag
end Dequeue

/-- An Asana workspace with one tag, `Queued`, and a project whose one task carries it. -/
def singleTag : AsanaTracker where
  workspaces := [⟨lit "1", lit "Work", [⟨lit "11", lit "Queued"⟩]⟩]
  projects := [⟨lit "2", lit "1", lit "Board", [lit "3"]⟩]
  tasks := [⟨lit "3", lit "1", lit "Fix it", [], [], false, [lit "11"], []⟩]

theorem removeLabel_dequeues_single_tag :
    lit "queued" ≠ [] ∧
      (∀ w ∈ singleTag.workspaces, ∀ e ∈ w.tags, ∀ e' ∈ w.tags,
        Strings.equalFold UnicodeCase.identity e.name (lit "queued") →
        Strings.equalFold UnicodeCase.identity e'.name (lit "queued") → e.gid = e'.gid) ∧
      (removeLabel UnicodeCase.identity (api (lit "https://asana")) singleTag
        ⟨fun _ => true, lit "https://asana"⟩ (lit "pat") (lit "3") (lit "queued")).1 = .ok () ∧
      fetchIssues UnicodeCase.identity (api (lit "https://asana"))
        (removeLabel UnicodeCase.identity (api (lit "https://asana")) singleTag
          ⟨fun _ => true, lit "https://asana"⟩ (lit "pat") (lit "3") (lit "queued")).2
        ⟨fun _ => true, lit "https://asana"⟩ (lit "pat") ⟨lit "queued", lit "2", []⟩ = .ok [] ∧
      ∀ i ∈ ([] : List Issue), i.id ≠ lit "3" :=
  ⟨by decide, by decide, rfl, rfl,
    @removeLabel_dequeues_of_unique_tag singleTag UnicodeCase.identity
      ⟨fun _ => true, lit "https://asana"⟩ (lit "pat") (lit "3") (lit "queued") (by decide)
      (by decide) rfl ⟨lit "queued", lit "2", []⟩ rfl [] rfl⟩

end AsanaTracker

/-! ## Linear -/

namespace LinearTracker
open LinearProvider

/-- What the provider's actions can do to an issue: take labels off and append
comments. -/
structure IssueDrains (i i' : LinearIssueRecord) : Prop where
  rest : { i' with labels := [], comments := [] } = { i with labels := [], comments := [] }
  labels : i'.labels ⊆ i.labels
  comments : i.comments <+: i'.comments

namespace IssueDrains
variable {i i' i'' : LinearIssueRecord}

theorem refl (i : LinearIssueRecord) : IssueDrains i i :=
  ⟨rfl, List.Subset.refl _, List.prefix_refl _⟩

theorem trans (h₁ : IssueDrains i i') (h₂ : IssueDrains i' i'') : IssueDrains i i'' :=
  ⟨h₂.rest.trans h₁.rest, h₂.labels.trans h₁.labels, h₁.comments.trans h₂.comments⟩

theorem forall₂_trans : ∀ {l₁ l₂ l₃ : List LinearIssueRecord}, List.Forall₂ IssueDrains l₁ l₂ →
    List.Forall₂ IssueDrains l₂ l₃ → List.Forall₂ IssueDrains l₁ l₃
  | _, _, _, .nil, .nil => .nil
  | _, _, _, .cons h₁ t₁, .cons h₂ t₂ => .cons (h₁.trans h₂) (forall₂_trans t₁ t₂)

theorem id_eq (h : IssueDrains i i') : i'.id = i.id := (congrArg LinearIssueRecord.id h.rest :)

theorem team_eq (h : IssueDrains i i') : i'.team = i.team :=
  (congrArg LinearIssueRecord.team h.rest :)

theorem active_eq (h : IssueDrains i i') : i'.active = i.active :=
  (congrArg LinearIssueRecord.active h.rest :)

/-- The team-issues query lists a drained issue as it was. -/
theorem node_eq (h : IssueDrains i i') : node i' = node i := (congrArg node h.rest :)

end IssueDrains

/-- What the provider's actions can do to a Linear server: teams, labels and the page
size stay, and each issue drains. -/
structure Drains (s s' : LinearTracker) : Prop where
  teams : s'.teams = s.teams
  labels : s'.labels = s.labels
  pageSize : s'.pageSize = s.pageSize
  issues : List.Forall₂ IssueDrains s.issues s'.issues

namespace Drains
variable {s s' s'' : LinearTracker}

theorem refl (s : LinearTracker) : Drains s s :=
  ⟨rfl, rfl, rfl, List.forall₂_same.mpr fun i _ => .refl i⟩

theorem trans (h₁ : Drains s s') (h₂ : Drains s' s'') : Drains s s'' :=
  ⟨h₂.teams.trans h₁.teams, h₂.labels.trans h₁.labels, h₂.pageSize.trans h₁.pageSize,
    IssueDrains.forall₂_trans h₁.issues h₂.issues⟩

theorem updateIssue {id : GoString} {f : LinearIssueRecord → LinearIssueRecord}
    {hf : ∀ i, (f i).identifier = i.identifier} (hd : ∀ i, IssueDrains i (f i)) :
    Drains s (s.updateIssue id f hf) := by
  refine ⟨rfl, rfl, rfl, List.forall₂_map_right_iff.mpr (List.forall₂_same.mpr fun i _ => ?_)⟩
  dsimp only
  split
  · exact hd i
  · exact .refl i

theorem labelName?_eq (h : Drains s s') : s'.labelName? = s.labelName? := by
  funext lid
  simp only [labelName?, h.labels]

end Drains

variable {s s' : LinearTracker}

theorem drains_disconnect (id lid : GoString) : Drains s (s.disconnect id lid) :=
  Drains.updateIssue fun _ => ⟨rfl, List.filter_subset' _, List.prefix_refl _⟩

theorem drains_addComment (id body : GoString) : Drains s (s.addComment id body) :=
  Drains.updateIssue fun _ => ⟨rfl, List.Subset.refl _, List.prefix_append _ _⟩

/-- After a drain, the queue of every filter is a sublist of the queue before. -/
theorem queuedIssues_sublist {uc : UnicodeCase} (h : Drains s s') (f : FilterConfig) :
    List.Sublist (s'.queuedIssues uc f) (s.queuedIssues uc f) := by
  simp only [queuedIssues, queue]
  refine forall₂_filter_map_sublist (fun i i' hi hp => ⟨?_, congrArg toIssue hi.node_eq⟩)
    h.issues
  simp only [Bool.and_eq_true, decide_eq_true_eq, hi.team_eq, hi.active_eq] at hp ⊢
  refine ⟨hp.1, ?_⟩
  generalize (if f.label = [] then none else some f.label) = label at hp ⊢
  cases label with
  | none => rfl
  | some l =>
    simp only [Option.all_some, carries_iff, h.labelName?_eq] at hp ⊢
    obtain ⟨lid, hl, n, hln, he⟩ := hp.2
    exact ⟨lid, hi.labels hl, n, hln, he⟩

section Provider
variable {uc : UnicodeCase} {p : LinearProvider} {key g L : GoString}

theorem drains_removeLabel : Drains s (removeLabel (api uc p.apiBase) s p key g L).2 := by
  rcases removeLabel_state (api uc p.apiBase) s p key g L with h | ⟨lid, h⟩
  · rw [h]; exact .refl s
  · rw [h, api_issueLabelDisconnect]; exact drains_disconnect g lid

theorem drains_comment {b : GoString} : Drains s (comment (api uc p.apiBase) s p key g b).2 := by
  rcases comment_state (api uc p.apiBase) s p key g b with h | h
  · rw [h]; exact .refl s
  · rw [h, api_commentCreate]; exact drains_addComment g (Json.roundTrip b)

/-- After a drain, `FetchIssues` fails with the same error, or it returned the first page
of the queue before and returns a sublist of that queue. -/
theorem fetchIssues_drains (h : Drains s s') {f : FilterConfig} :
    (∃ issues issues', fetchIssues (api uc p.apiBase) s p key f = .ok issues ∧
        fetchIssues (api uc p.apiBase) s' p key f = .ok issues' ∧
        issues = (s.queuedIssues uc f).take s.pageSize ∧
        List.Sublist issues' (s.queuedIssues uc f)) ∨
      ∃ e, fetchIssues (api uc p.apiBase) s p key f = .error e ∧
        fetchIssues (api uc p.apiBase) s' p key f = .error e := by
  rw [fetchIssues_tracker_eq, fetchIssues_tracker_eq]
  by_cases hkey : key = []
  · simp only [if_pos hkey]; exact .inr ⟨_, rfl, rfl⟩
  by_cases hteam : f.team = []
  · simp only [if_neg hkey, if_pos hteam]; exact .inr ⟨_, rfl, rfl⟩
  simp only [if_neg hkey, if_neg hteam, teamIssues_toIssue]
  exact .inl ⟨_, _, rfl, rfl, rfl, (List.take_sublist _ _).trans (queuedIssues_sublist h f)⟩

end Provider

/-! ### Runs -/

/-- The server after one provider action with key `key`, whatever the action
returned. -/
def step (uc : UnicodeCase) (p : LinearProvider) (key : GoString) (s : LinearTracker) :
    ProviderAction → LinearTracker
  | .removeLabel g L => (removeLabel (api uc p.apiBase) s p key g L).2
  | .comment g body => (comment (api uc p.apiBase) s p key g body).2

/-- The server after a sequence of provider actions. -/
def run (uc : UnicodeCase) (p : LinearProvider) (key : GoString) (s : LinearTracker)
    (acts : List ProviderAction) : LinearTracker :=
  acts.foldl (step uc p key) s

section Run
variable {uc : UnicodeCase} {p : LinearProvider} {key key' : GoString}

theorem drains_step (a : ProviderAction) : Drains s (step uc p key s a) := by
  cases a with
  | removeLabel g L => exact drains_removeLabel
  | comment g body => exact drains_comment

theorem drains_run (acts : List ProviderAction) : Drains s (run uc p key s acts) := by
  induction acts generalizing s with
  | nil => exact .refl s
  | cons a acts ih => exact (drains_step a).trans ih

/-- **Provider actions never put an issue back in the queue.**  After any sequence of
`RemoveLabel` and `Comment` calls, whatever they returned, `FetchIssues` fails as it
failed before, or it returned the first page of the queue before the calls and returns
issues that were all in that queue, in its order.  An issue past the first page before
can appear once issues ahead of it have left the queue. -/
theorem issues_never_requeued (acts : List ProviderAction) {f : FilterConfig} :
    (∃ issues issues', fetchIssues (api uc p.apiBase) s p key f = .ok issues ∧
        fetchIssues (api uc p.apiBase) (run uc p key' s acts) p key f = .ok issues' ∧
        issues = (s.queuedIssues uc f).take s.pageSize ∧
        List.Sublist issues' (s.queuedIssues uc f)) ∨
      ∃ e, fetchIssues (api uc p.apiBase) s p key f = .error e ∧
        fetchIssues (api uc p.apiBase) (run uc p key' s acts) p key f = .error e :=
  fetchIssues_drains (drains_run acts)

end Run

/-! ### Dequeuing -/

section Dequeue
variable {uc : UnicodeCase} {p : LinearProvider} {key g L : GoString}

/-- Under a unique queue label, a label an issue carries under a name matching `L` is the
one `RemoveLabel` of `L` disconnects. -/
theorem carried_eq_of_unique
    (huniq : ∀ l ∈ s.labels, ∀ l' ∈ s.labels, Strings.equalFold uc l.name L →
      Strings.equalFold uc l'.name L → l.id = l'.id)
    {lid n : GoString} (hn : s.labelName? lid = some n) (hm : Strings.equalFold uc n L)
    {node : LinearLabel} (hnode : node ∈ s.labels.filter fun l => Strings.equalFold uc l.name L) :
    lid = node.id := by
  obtain ⟨l, hl, rfl, rfl⟩ := exists_label_of_labelName? hn
  obtain ⟨hmem, hnm⟩ := List.mem_filter.mp hnode
  exact huniq l hl node hmem hm hnm

/-- **With one matching label, `RemoveLabel` dequeues.**  When no two labels of
different ids have names that match `L`, after a successful `RemoveLabel` of `L` from
issue `g`, `FetchIssues` with label `L` returns no issue with `g`'s identifier. -/
theorem removeLabel_dequeues_of_unique_label (hL : L ≠ [])
    (huniq : ∀ l ∈ s.labels, ∀ l' ∈ s.labels, Strings.equalFold uc l.name L →
      Strings.equalFold uc l'.name L → l.id = l'.id)
    (h : (removeLabel (api uc p.apiBase) s p key g L).1 = .ok ()) {f : FilterConfig}
    (hf : f.label = L) {i : LinearIssueRecord} (hi : s.issue? g = some i) {issues : List Issue}
    (hfetch : fetchIssues (api uc p.apiBase) (removeLabel (api uc p.apiBase) s p key g L).2 p key f =
      .ok issues) :
    ∀ j ∈ issues, j.id ≠ i.identifier := by
  obtain ⟨lab, hlab, hst, hqi⟩ := removeLabel_effect h
  have hkey := (removeLabel_ok_state h).1
  rw [hst] at hfetch
  by_cases hteam : f.team = []
  · simp [fetchIssues_tracker_eq, hkey, hteam] at hfetch
  rw [fetchIssues_tracker hkey hteam, hf, if_neg hL] at hfetch
  obtain rfl := Except.ok.inj hfetch
  intro j hj hid
  obtain ⟨k, hk, hjk⟩ := exists_queued_of_fetched hj
  obtain ⟨-, -, lid, -, hne, n, hn, hm⟩ := (hqi f.team i hi).mp ⟨k, hk, hjk.symm.trans hid⟩
  exact hne (carried_eq_of_unique huniq hn hm
    (List.mem_filter.mpr ⟨List.mem_of_find?_eq_some hlab, (List.find?_some hlab :)⟩))

end Dequeue

/-- A Linear server with one label, `Queued`, and an active issue of team `T` carrying
it. -/
def singleLabel : LinearTracker where
  teams := [⟨lit "T", lit "Engineering"⟩]
  labels := [⟨lit "L1", lit "Queued"⟩]
  issues := [⟨lit "U1", lit "ENG-1", lit "T", lit "Fix it", [], [], true, [lit "L1"], []⟩]
  pageSize := 50
  identifiers_nodup := List.nodup_singleton _

theorem removeLabel_dequeues_single_label :
    lit "queued" ≠ [] ∧
      (∀ l ∈ singleLabel.labels, ∀ l' ∈ singleLabel.labels,
        Strings.equalFold UnicodeCase.identity l.name (lit "queued") →
        Strings.equalFold UnicodeCase.identity l'.name (lit "queued") → l.id = l'.id) ∧
      (removeLabel (api UnicodeCase.identity (lit "https://linear")) singleLabel
        ⟨fun _ => true, lit "https://linear"⟩ (lit "key") (lit "U1") (lit "queued")).1 = .ok () ∧
      singleLabel.issue? (lit "U1") =
        some ⟨lit "U1", lit "ENG-1", lit "T", lit "Fix it", [], [], true, [lit "L1"], []⟩ ∧
      fetchIssues (api UnicodeCase.identity (lit "https://linear"))
        (removeLabel (api UnicodeCase.identity (lit "https://linear")) singleLabel
          ⟨fun _ => true, lit "https://linear"⟩ (lit "key") (lit "U1") (lit "queued")).2
        ⟨fun _ => true, lit "https://linear"⟩ (lit "key") ⟨lit "queued", [], lit "T"⟩ = .ok [] ∧
      ∀ j ∈ ([] : List Issue), j.id ≠ lit "ENG-1" :=
  ⟨by decide, by decide, rfl, rfl, rfl,
    @removeLabel_dequeues_of_unique_label singleLabel UnicodeCase.identity
      ⟨fun _ => true, lit "https://linear"⟩ (lit "key") (lit "U1") (lit "queued") (by decide)
      (by decide) rfl ⟨lit "queued", [], lit "T"⟩ rfl _ rfl [] rfl⟩

end LinearTracker

end Erg
