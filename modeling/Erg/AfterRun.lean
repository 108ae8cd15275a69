import Erg.Interleaving

/-! # The server after a run

`Interleaving` reads every call of a run off the server the run started from
(`step_eq_effect`).  This module takes the last step and writes the server after any
run, with the key set, in closed form (`run_tasks_eq_afterRun`,
`run_issues_eq_afterRun`).  Each record keeps every field but two:

* its tags (labels) lose exactly the ones some `RemoveLabel` of the run on it takes off,
  the tag `findTagGID` (the label search) finds on the starting server;
* its stories (comments) are followed by the bodies of the run's comments on it, each
  once and in the run's order, as the tracker reads them from `json.Marshal`
  (`Json.roundTrip`): no comment is lost, and none is posted twice.

One call maps the records by the closed form of that call alone (`effect_eq_map`), and
the closed forms of two runs compose to that of the joined run (`afterRun_append`).
-/
namespace Erg
namespace ProviderAction

/-- The body the action posts on issue `g`: the body of a comment on `g`. -/
def commentOn? (g : GoString) : ProviderAction → Option GoString
  | .removeLabel _ _ => none
  | .comment g' body => if g' = g then some body else none

end ProviderAction

/-- Dropping what one list holds, then what another holds, drops what either holds. -/
theorem filter_not_mem_append (l xs ys : List GoString) :
    ((l.filter fun e => e ∉ xs).filter fun e => e ∉ ys) = l.filter fun e => e ∉ xs ++ ys := by
  rw [List.filter_filter]
  refine List.filter_congr fun e _ => ?_
  simp only [List.mem_append, not_or, Bool.decide_and, Bool.and_comm]

/-- Updating the records of key `g` by `f` maps them by any `F` that is `f` there and
leaves the others alone. -/
theorem map_update_eq_map {α : Type} (key : α → GoString) {g : GoString} {f F : α → α}
    (hne : ∀ r, key r ≠ g → F r = r) (heq : ∀ r, key r = g → F r = f r) (l : List α) :
    (l.map fun r => if key r = g then f r else r) = l.map F :=
  List.map_congr_left fun r _ => by
    by_cases h : key r = g
    · rw [if_pos h, heq r h]
    · rw [if_neg h, hne r h]

/-! ## Asana -/

namespace AsanaTracker

/-- The tag GID action `a` takes off task `g`: for `RemoveLabel` on `g`, the tag
`findTagGID` finds on `s`. -/
def removedBy? (uc : UnicodeCase) (s : AsanaTracker) (g : GoString) :
    ProviderAction → Option GoString
  | .removeLabel g' L => if g' = g then s.removedTag? uc g' L else none
  | .comment _ _ => none

/-- Task `r` after a run of `acts` from `s`: the tags no `RemoveLabel` of the run took
off it, and its stories followed by the run's comments on it, as Asana reads them. -/
def afterRun (uc : UnicodeCase) (s : AsanaTracker) (acts : List ProviderAction)
    (r : AsanaTaskRecord) : AsanaTaskRecord :=
  { r with
    tags := r.tags.filter fun e => e ∉ acts.filterMap (removedBy? uc s r.gid)
    stories := r.stories ++ (acts.filterMap (·.commentOn? r.gid)).map Json.roundTrip }

variable {s t : AsanaTracker} {uc : UnicodeCase} {p : AsanaProvider} {pat : GoString}

@[simp] theorem afterRun_gid (acts : List ProviderAction) (r : AsanaTaskRecord) :
    (afterRun uc s acts r).gid = r.gid := rfl

theorem afterRun_nil : afterRun uc s [] = id := by
  funext r
  simp [afterRun]

theorem afterRun_append (acts acts' : List ProviderAction) (r : AsanaTaskRecord) :
    afterRun uc s acts' (afterRun uc s acts r) = afterRun uc s (acts ++ acts') r := by
  simp only [afterRun, afterRun_gid, List.filterMap_append, List.map_append,
    filter_not_mem_append, List.append_assoc]

/-- **One call, record by record.**  With the token set, a call maps the tasks by the
closed form of that call alone. -/
theorem effect_eq_map (hpat : pat ≠ []) (a : ProviderAction) (t : AsanaTracker) :
    effect uc pat s a t = { t with tasks := t.tasks.map (afterRun uc s [a]) } := by
  have hmap : ∀ {f : AsanaTaskRecord → AsanaTaskRecord} {g : GoString},
      (∀ r, r.gid ≠ g → afterRun uc s [a] r = r) → (∀ r, r.gid = g → afterRun uc s [a] r = f r) →
      t.updateTask g f = { t with tasks := t.tasks.map (afterRun uc s [a]) } :=
    fun hne heq => congrArg (fun l => { t with tasks := l }) (map_update_eq_map _ hne heq _)
  cases a with
  | removeLabel g L =>
    rcases hx : s.removedTag? uc g L with _ | x
    · simp only [effect, if_neg hpat, hx]
      refine (congrArg (fun l => { t with tasks := l })
        ((List.map_congr_left fun r _ => ?_).trans (List.map_id _))).symm
      simp [afterRun, removedBy?, ProviderAction.commentOn?, hx]
    · simp only [effect, if_neg hpat, hx]
      refine hmap (fun r h => ?_) fun r h => ?_
      · simp [afterRun, removedBy?, ProviderAction.commentOn?, Ne.symm h]
      · simp [afterRun, removedBy?, ProviderAction.commentOn?, h, hx]
  | comment g b =>
    simp only [effect, if_neg hpat]
    refine hmap (fun r h => ?_) fun r h => ?_
    · simp [afterRun, removedBy?, ProviderAction.commentOn?, Ne.symm h]
    · simp [afterRun, removedBy?, ProviderAction.commentOn?, h]

/-- **The server after any run.**  With the token set, a run leaves the workspaces and
projects as they were, and maps every task `r` to `afterRun`: the tags the run's
`RemoveLabel` calls on `r` took off are gone, and the bodies of the run's comments on `r`,
as Asana reads them from `json.Marshal`, follow its stories, each once and in the run's
order. -/
theorem run_tasks_eq_afterRun (hpat : pat ≠ []) (acts : List ProviderAction) :
    run uc p pat s acts = { s with tasks := s.tasks.map (afterRun uc s acts) } := by
  rw [run_eq_effects acts (.refl s)]
  induction acts using List.reverseRecOn with
  | nil => rw [afterRun_nil, List.map_id]; rfl
  | append_singleton acts a ih =>
    rw [List.foldl_append, List.foldl_cons, List.foldl_nil, ih, effect_eq_map hpat, List.map_map]
    exact congrArg (fun f => { s with tasks := s.tasks.map f }) (funext (afterRun_append acts [a]))

/-- Starting work on the queued task: a story, then the removal of `Queued`. -/
theorem run_tasks_eq_afterRun_single_tag :
    lit "pat" ≠ [] ∧
      run UnicodeCase.identity ⟨fun _ => true, lit "https://asana"⟩ (lit "pat") singleTag
          [.comment (lit "3") (lit "Working on it"), .removeLabel (lit "3") (lit "queued")] =
        { singleTag with tasks := singleTag.tasks.map (afterRun UnicodeCase.identity singleTag
          [.comment (lit "3") (lit "Working on it"), .removeLabel (lit "3") (lit "queued")]) } :=
  ⟨by decide, run_tasks_eq_afterRun (by decide) _⟩

example : singleTag.tasks.map (afterRun UnicodeCase.identity singleTag
      [.comment (lit "3") (lit "Working on it"), .removeLabel (lit "3") (lit "queued")]) =
    [⟨lit "3", lit "1", lit "Fix it", [], [], false, [], [lit "Working on it"]⟩] := by
  decide

end AsanaTracker

/-! ## Linear -/

namespace LinearTracker

/-- The label id action `a` takes off issue `id`: for `RemoveLabel` on `id`, the first
label whose name matches. -/
def removedBy? (uc : UnicodeCase) (s : LinearTracker) (id : GoString) :
    ProviderAction → Option GoString
  | .removeLabel g L =>
    if g = id then ((s.labels.filter fun l => Strings.equalFold uc l.name L).head?).map (·.id)
    else none
  | .comment _ _ => none

/-- Issue `i` after a run of `acts` from `s`: the labels no `RemoveLabel` of the run took
off it, and its comments followed by the run's comments on it, as Linear reads them. -/
def afterRun (uc : UnicodeCase) (s : LinearTracker) (acts : List ProviderAction)
    (i : LinearIssueRecord) : LinearIssueRecord :=
  { i with
    labels := i.labels.filter fun l => l ∉ acts.filterMap (removedBy? uc s i.id)
    comments := i.comments ++ (acts.filterMap (·.commentOn? i.id)).map Json.roundTrip }

variable {s t : LinearTracker} {uc : UnicodeCase} {p : LinearProvider} {key : GoString}

@[simp] theorem afterRun_id (acts : List ProviderAction) (i : LinearIssueRecord) :
    (afterRun uc s acts i).id = i.id := rfl

theorem afterRun_nil : afterRun uc s [] = id := by
  funext i
  simp [afterRun]

theorem afterRun_append (acts acts' : List ProviderAction) (i : LinearIssueRecord) :
    afterRun uc s acts' (afterRun uc s acts i) = afterRun uc s (acts ++ acts') i := by
  simp only [afterRun, afterRun_id, List.filterMap_append, List.map_append,
    filter_not_mem_append, List.append_assoc]

/-- **One call, record by record.**  With the key set, a call maps the issues by the
closed form of that call alone. -/
theorem effect_issues_eq_map (hkey : key ≠ []) (a : ProviderAction) (t : LinearTracker) :
    (effect uc key s a t).issues = t.issues.map (afterRun uc s [a]) := by
  cases a with
  | removeLabel g L =>
    rcases hl : s.labels.filter fun l => Strings.equalFold uc l.name L with _ | ⟨node, rest⟩
    · simp only [effect, if_neg hkey, hl]
      refine ((List.map_congr_left fun i _ => ?_).trans (List.map_id _)).symm
      simp [afterRun, removedBy?, ProviderAction.commentOn?, hl]
    · simp only [effect, if_neg hkey, hl]
      refine map_update_eq_map LinearIssueRecord.id (fun i h => ?_) (fun i h => ?_) _
      · simp [afterRun, removedBy?, ProviderAction.commentOn?, Ne.symm h]
      · simp [afterRun, removedBy?, ProviderAction.commentOn?, h, hl]
  | comment g b =>
    simp only [effect, if_neg hkey]
    refine map_update_eq_map LinearIssueRecord.id (fun i h => ?_) (fun i h => ?_) _
    · simp [afterRun, removedBy?, ProviderAction.commentOn?, Ne.symm h]
    · simp [afterRun, removedBy?, ProviderAction.commentOn?, h]

/-- **The server after any run.**  With the key set, a run leaves the teams, labels and
page size as they were, and maps every issue `i` to `afterRun`: the labels the run's
`RemoveLabel` calls on `i` took off are gone, and the bodies of the run's comments on `i`,
as Linear reads them from `json.Marshal`, follow its comments, each once and in the run's
order. -/
theorem run_issues_eq_afterRun (hkey : key ≠ []) (acts : List ProviderAction) :
    (run uc p key s acts).issues = s.issues.map (afterRun uc s acts) ∧
      (run uc p key s acts).labels = s.labels ∧ (run uc p key s acts).teams = s.teams ∧
      (run uc p key s acts).pageSize = s.pageSize := by
  refine ⟨?_, (drains_run acts).labels, (drains_run acts).teams, (drains_run acts).pageSize⟩
  rw [run_eq_effects acts (.refl s)]
  induction acts using List.reverseRecOn with
  | nil => rw [afterRun_nil, List.map_id]; rfl
  | append_singleton acts a ih =>
    rw [List.foldl_append, List.foldl_cons, List.foldl_nil, effect_issues_eq_map hkey, ih,
      List.map_map]
    exact List.map_congr_left fun i _ => afterRun_append acts [a] i

/-- Starting work on the queued issue: a comment, then the removal of `Queued`. -/
theorem run_issues_eq_afterRun_single_label :
    lit "key" ≠ [] ∧
      (run UnicodeCase.identity ⟨fun _ => true, lit "https://linear"⟩ (lit "key") singleLabel
          [.comment (lit "U1") (lit "Working on it"),
            .removeLabel (lit "U1") (lit "queued")]).issues =
        singleLabel.issues.map (afterRun UnicodeCase.identity singleLabel
          [.comment (lit "U1") (lit "Working on it"), .removeLabel (lit "U1") (lit "queued")]) ∧
      (run UnicodeCase.identity ⟨fun _ => true, lit "https://linear"⟩ (lit "key") singleLabel
          [.comment (lit "U1") (lit "Working on it"),
            .removeLabel (lit "U1") (lit "queued")]).labels =
        singleLabel.labels ∧
      (run UnicodeCase.identity ⟨fun _ => true, lit "https://linear"⟩ (lit "key") singleLabel
          [.comment (lit "U1") (lit "Working on it"),
            .removeLabel (lit "U1") (lit "queued")]).teams =
        singleLabel.teams ∧
      (run UnicodeCase.identity ⟨fun _ => true, lit "https://linear"⟩ (lit "key") singleLabel
          [.comment (lit "U1") (lit "Working on it"),
            .removeLabel (lit "U1") (lit "queued")]).pageSize =
        singleLabel.pageSize :=
  ⟨by decide, run_issues_eq_afterRun (by decide) _⟩

end LinearTracker

end Erg
