import Erg.Interleaving

/-! # The queue a run leaves

`FetchIssues` with label `L` is the daemon's queue, and its runs of `RemoveLabel` and
`Comment` calls are meant to take issues out of it, one `RemoveLabel` of `L` each.  This
module shows that they do exactly that, given the precondition under which
`RemoveLabel` can find the right tag (label): in every workspace the tags whose names
match `L` share one GID.  For any run whose `RemoveLabel` calls are all of `L`, and
whatever the calls return, `FetchIssues` afterwards returns what it returned before with
the issues the run called `RemoveLabel` on left out, in the same order
(`fetchIssues_run_dequeues`, `fetchIssues_run_dequeues_issues`).  The server's queue is
thus a list that a run filters.

The proof follows one issue through the run: a call changes whether the issue carries
`L` only when it is `RemoveLabel` of `L` from that issue, and then the issue no longer
carries it (`carries_effect`, `issues_effect`); by induction over the run, an issue
carries `L` afterwards exactly when it did before and the run never called
`RemoveLabel` of `L` on it (`carries_run`).
-/
namespace Erg

/-- Filtering two related lists and mapping them to one type: the second list's result is
the first's, filtered further by `Q`, when related elements map alike and the second
list's test is the first's and `Q`. -/
theorem filter_map_of_forall₂ {α α' β : Type} {R : α → α' → Prop} {P Q : α → Bool}
    {P' : α' → Bool} {F : α → β} {F' : α' → β} :
    ∀ {l : List α} {l' : List α'}, List.Forall₂ R l l' →
      (∀ a ∈ l, ∀ a', R a a' → F' a' = F a ∧ P' a' = (P a && Q a)) →
      (l'.filter P').map F' = ((l.filter P).filter Q).map F
  | _, _, .nil, _ => rfl
  | a :: _, a' :: _, .cons hr t, h => by
    obtain ⟨hF, hP⟩ := h a (.head _) a' hr
    have ih := filter_map_of_forall₂ t fun b hb => h b (.tail _ hb)
    cases hp : P a <;> cases hq : Q a <;> simp [List.filter_cons, hP, hp, hq, hF, ih]

/-- The queue label's bookkeeping over one more call `a`: `x` is still not called. -/
theorem and_not_mem_snoc {c : Prop} {acts : List ProviderAction} {a x : ProviderAction} :
    (c ∧ x ∉ acts) ∧ a ≠ x ↔ c ∧ x ∉ acts ++ [a] := by
  rw [List.mem_append, List.mem_singleton, not_or, and_assoc, ne_comm]

/-- A comment and a removal of `L` remove no label but `L`. -/
theorem removeLabel_mem_pair {g b g₀ L : GoString} :
    ∀ g' L', ProviderAction.removeLabel g' L' ∈ [.comment g b, .removeLabel g₀ L] → L' = L := by
  simp

namespace AsanaTracker
open AsanaProvider

/-- The server names the queue label `L` without ambiguity: in every workspace, the tags
whose names match `L` share one GID, and no workspace has an empty GID. -/
structure UniqueQueueTag (uc : UnicodeCase) (s : AsanaTracker) (L : GoString) : Prop where
  gid_ne_nil : ∀ w ∈ s.workspaces, w.gid ≠ []
  unique : ∀ w ∈ s.workspaces, ∀ e ∈ w.tags, ∀ e' ∈ w.tags, Strings.equalFold uc e.name L →
    Strings.equalFold uc e'.name L → e.gid = e'.gid

/-- The filter of `FetchIssues` with label `L`: a tag whose name matches `L`. -/
def carries (uc : UnicodeCase) (L : GoString) (x : AsanaTask) : Bool :=
  x.tags.any fun e => Strings.equalFold uc e.name L

variable {s t : AsanaTracker} {uc : UnicodeCase} {p : AsanaProvider} {pat g L : GoString}

theorem Drains.render_eq (h : Drains s t) : t.render = s.render := by
  funext r
  simp only [render, tagName?, h.workspace?_eq]

/-- Under a unique queue tag, a tag a task carries under a name matching `L` is the one
`RemoveLabel` of `L` takes off. -/
theorem UniqueQueueTag.removedTag?_eq (hq : UniqueQueueTag uc s L) {r : AsanaTaskRecord}
    (hr : s.task? g = some r) {e n : GoString} (hn : s.tagName? r.workspace e = some n)
    (hm : Strings.equalFold uc n L) : s.removedTag? uc g L = some e := by
  simp only [tagName?, Option.bind_eq_some, Option.map_eq_some'] at hn
  obtain ⟨w, hw, entry, hentry, rfl⟩ := hn
  have hwm : w ∈ s.workspaces := List.mem_of_find?_eq_some hw
  have hwg : w.gid = r.workspace := by simpa using List.find?_some hw
  have hge : entry.gid = e := by simpa using List.find?_some hentry
  obtain ⟨tag, htag⟩ : ∃ tag, (w.tags.find? fun e => Strings.equalFold uc e.name L) = some tag :=
    Option.isSome_iff_exists.mp
      (List.find?_isSome.mpr ⟨entry, List.mem_of_find?_eq_some hentry, hm⟩)
  have htg : tag.gid = e := (hq.unique w hwm tag (List.mem_of_find?_eq_some htag) entry
    (List.mem_of_find?_eq_some hentry) (by simpa using List.find?_some htag) hm).trans hge
  have hws : r.workspace ≠ [] := hwg ▸ hq.gid_ne_nil w hwm
  simp [removedTag?, hr, hws, matchingTag?, hw, htag, htg]

theorem UniqueQueueTag.not_carries (hq : UniqueQueueTag uc s L) {r r' : AsanaTaskRecord}
    (hr : s.task? g = some r) (hw : r'.workspace = r.workspace) {x : Option GoString}
    (hx : s.removedTag? uc g L = x) (hfree : ∀ e ∈ r'.tags, some e ≠ x) :
    carries uc L (s.render r') = false := by
  refine Bool.eq_false_iff.mpr fun hc => ?_
  obtain ⟨e, he, n, hn, hm⟩ := any_render_tags.mp hc
  rw [hw] at hn
  exact hfree e he (hx ▸ (hq.removedTag?_eq hr hn hm).symm)

theorem task?_removeTag_of_ne {g' : GoString} (h : g' ≠ g) (x : GoString) :
    (t.removeTag g' x).task? g = t.task? g := by
  rw [removeTag, task?_updateTask]
  · cases ht : t.task? g with
    | none => rfl
    | some r => simp [task?_gid ht, Ne.symm h]
  · exact fun _ => rfl

theorem task?_addStory {g' : GoString} (b : GoString) :
    (t.addStory g' b).task? g =
      (t.task? g).map fun r =>
        if r.gid = g' then { r with stories := r.stories ++ [b] } else r := by
  rw [addStory, task?_updateTask]
  exact fun _ => rfl

theorem render_stories (r : AsanaTaskRecord) (l : List GoString) :
    s.render { r with stories := l } = s.render r := rfl

/-- **One call and the queue label.**  On a server drained from `s`, an action changes
whether task `g` carries `L` only when it is `RemoveLabel` of `L` from `g`, and then the
task no longer carries it. -/
theorem carries_effect (hq : UniqueQueueTag uc s L) (hpat : pat ≠ []) {a : ProviderAction}
    (ha : ∀ g' L', a = .removeLabel g' L' → L' = L) {r r' : AsanaTaskRecord}
    (hr : s.task? g = some r) (hrr : TaskDrains r r') (hr' : t.task? g = some r') :
    ∃ r'', (effect uc pat s a t).task? g = some r'' ∧ TaskDrains r' r'' ∧
      (carries uc L (s.render r'') ↔ carries uc L (s.render r') ∧ a ≠ .removeLabel g L) := by
  have hws : r'.workspace = r.workspace := (congrArg AsanaTaskRecord.workspace hrr.rest :)
  cases a with
  | comment g' b =>
    simp only [effect, if_neg hpat, task?_addStory, hr', Option.map_some', Option.some.injEq,
      exists_eq_left', ne_eq, reduceCtorEq, not_false_eq_true, and_true]
    split
    · exact ⟨⟨rfl, List.Subset.refl _, List.prefix_append _ _⟩, by rw [render_stories]⟩
    · exact ⟨.refl r', Iff.rfl⟩
  | removeLabel g' L' =>
    obtain rfl := ha g' L' rfl
    simp only [effect, if_neg hpat, ne_eq, ProviderAction.removeLabel.injEq, and_true]
    by_cases hg : g' = g
    · subst hg
      rcases hx : s.removedTag? uc g' L' with _ | x
      · refine ⟨r', hr', .refl r', ?_⟩
        simp only [not_true_eq_false, and_false, iff_false, Bool.not_eq_true]
        exact hq.not_carries hr hws hx fun _ _ => Option.some_ne_none _
      · refine ⟨{ r' with tags := r'.tags.filter fun e => e ≠ x }, ?_,
          ⟨rfl, List.filter_subset' _, List.prefix_refl _⟩, ?_⟩
        · rw [task?_removeTag, hr', Option.map_some']
        · simp only [not_true_eq_false, and_false, iff_false, Bool.not_eq_true]
          refine hq.not_carries hr hws hx fun e he hex => ?_
          simp only [List.mem_filter, decide_eq_true_eq] at he
          exact he.2 (Option.some_inj.mp hex)
    · refine ⟨r', ?_, .refl r', by simp only [hg, not_false_eq_true, and_true]⟩
      rcases s.removedTag? uc g' L' with _ | x
      · exact hr'
      · rw [task?_removeTag_of_ne hg, hr']

/-- **A run and the queue label.**  After any run whose `RemoveLabel` calls are all of
`L`, a task carries `L` exactly when it carried it before and the run never called
`RemoveLabel` of `L` on it. -/
theorem carries_run (hq : UniqueQueueTag uc s L) (hpat : pat ≠ []) {acts : List ProviderAction}
    (hacts : ∀ g' L', .removeLabel g' L' ∈ acts → L' = L) {r : AsanaTaskRecord}
    (hr : s.task? g = some r) :
    ∃ r', (run uc p pat s acts).task? g = some r' ∧ TaskDrains r r' ∧
      (carries uc L (s.render r') ↔ carries uc L (s.render r) ∧ .removeLabel g L ∉ acts) := by
  rw [run_eq_effects acts (.refl s)]
  induction acts using List.reverseRecOn with
  | nil => exact ⟨r, hr, .refl r, by simp⟩
  | append_singleton acts a ih =>
    obtain ⟨r', hr', hrr', hc'⟩ := ih fun g' L' h => hacts g' L' (List.mem_append_left _ h)
    obtain ⟨r'', hr'', hrr'', hc''⟩ := carries_effect hq hpat (fun g' L' e => hacts g' L'
      (e ▸ List.mem_append_right _ (List.mem_singleton_self a))) hr hrr' hr'
    refine ⟨r'', by rw [List.foldl_append]; exact hr'', hrr'.trans hrr'', ?_⟩
    rw [hc'', hc']
    exact and_not_mem_snoc

/-- One position of a project's task list after the run: the issue shown there before,
unless the run called `RemoveLabel` of `L` on it. -/
theorem fetched_run (hq : UniqueQueueTag uc s L) (hpat : pat ≠ []) {acts : List ProviderAction}
    (hacts : ∀ g' L', .removeLabel g' L' ∈ acts → L' = L) (g : GoString) :
    (((((run uc p pat s acts).task? g).filter fun r => !r.completed).map
        (run uc p pat s acts).render).filter (carries uc L)).map toIssue =
      (((((s.task? g).filter fun r => !r.completed).map s.render).filter (carries uc L)).map
        toIssue).filter fun i => decide (ProviderAction.removeLabel i.id L ∉ acts) := by
  have hd : Drains s (run uc p pat s acts) := drains_run acts
  rw [hd.render_eq]
  cases hr : s.task? g with
  | none =>
    have h := hd.task? g
    rw [hr] at h
    generalize (run uc p pat s acts).task? g = y at h ⊢
    cases h
    rfl
  | some r =>
    obtain ⟨r', hr', hrr, hc⟩ := @carries_run _ _ p _ _ _ hq hpat _ hacts _ hr
    have hid : toIssue (s.render r') = toIssue (s.render r) := hrr.toIssue_render
    have hgid : (toIssue (s.render r)).id = g := task?_gid hr
    rw [hr']
    cases hcomp : r.completed
    · have hcomp' : r'.completed = false := hrr.completed_eq.trans hcomp
      simp only [Option.filter, hcomp, hcomp', Bool.not_false, if_true, Option.map_some']
      by_cases h₁ : carries uc L (s.render r) = true <;>
        by_cases h₂ : ProviderAction.removeLabel g L ∈ acts <;> simp [h₁, h₂, hc, hid, hgid]
    · simp [Option.filter, hcomp, hrr.completed_eq]

theorem fetchIssues_run_dequeues (hq : UniqueQueueTag uc s L) (hpat : pat ≠ []) (hL : L ≠ [])
    {acts : List ProviderAction} (hacts : ∀ g' L', .removeLabel g' L' ∈ acts → L' = L)
    {f : FilterConfig} (hf : f.label = L) :
    fetchIssues uc (api p.apiBase) (run uc p pat s acts) p pat f =
      (fetchIssues uc (api p.apiBase) s p pat f).map
        (List.filter fun i => decide (ProviderAction.removeLabel i.id L ∉ acts)) := by
  have hd : Drains s (run uc p pat s acts) := drains_run acts
  rw [fetchIssues_tracker_eq, fetchIssues_tracker_eq, hd.project?_eq, if_neg hpat, if_neg hpat]
  by_cases hproject : f.project = []
  · simp only [if_pos hproject]; rfl
  simp only [if_neg hproject]
  cases s.project? f.project with
  | none => rfl
  | some pr =>
    simp only [hf, if_neg hL, Except.map, projectTasks, List.filter_filterMap, List.map_filterMap]
    congr 1
    exact List.filterMap_congr fun g _ => fetched_run hq hpat hacts g

/-- Starting work on the queued task: a story, then the removal of `Queued`. -/
theorem fetchIssues_run_dequeues_single_tag :
    UniqueQueueTag UnicodeCase.identity singleTag (lit "queued") ∧ lit "pat" ≠ [] ∧
      lit "queued" ≠ [] ∧
      (∀ g' L', ProviderAction.removeLabel g' L' ∈ [.comment (lit "3") (lit "Working on it"),
        .removeLabel (lit "3") (lit "queued")] → L' = lit "queued") ∧
      (⟨lit "queued", lit "2", []⟩ : FilterConfig).label = lit "queued" ∧
      fetchIssues UnicodeCase.identity (api (lit "https://asana"))
          (run UnicodeCase.identity ⟨fun _ => true, lit "https://asana"⟩ (lit "pat") singleTag
            [.comment (lit "3") (lit "Working on it"), .removeLabel (lit "3") (lit "queued")])
          ⟨fun _ => true, lit "https://asana"⟩ (lit "pat") ⟨lit "queued", lit "2", []⟩ =
        (fetchIssues UnicodeCase.identity (api (lit "https://asana")) singleTag
          ⟨fun _ => true, lit "https://asana"⟩ (lit "pat") ⟨lit "queued", lit "2", []⟩).map
          (List.filter fun i => decide (ProviderAction.removeLabel i.id (lit "queued") ∉
            [ProviderAction.comment (lit "3") (lit "Working on it"),
              .removeLabel (lit "3") (lit "queued")])) :=
  have hq : UniqueQueueTag UnicodeCase.identity singleTag (lit "queued") :=
    ⟨by decide, by decide⟩
  ⟨hq, by decide, by decide, removeLabel_mem_pair, rfl,
    @fetchIssues_run_dequeues _ _ ⟨fun _ => true, lit "https://asana"⟩ _ _ hq (by decide)
      (by decide) _ removeLabel_mem_pair _ rfl⟩

end AsanaTracker

namespace LinearTracker
open LinearProvider

variable {s t : LinearTracker} {uc : UnicodeCase} {p : LinearProvider} {key g L : GoString}

theorem Drains.carries_eq (h : Drains s t) : t.carries = s.carries := by
  funext uc i label
  simp only [carries, h.labelName?_eq]

theorem not_carries_of_nil {i : LinearIssueRecord}
    (h : (s.labels.filter fun l => Strings.equalFold uc l.name L) = []) :
    s.carries uc i L = false := by
  refine Bool.eq_false_iff.mpr fun hc => ?_
  obtain ⟨lid, -, n, hn, hm⟩ := carries_iff.mp hc
  obtain ⟨l, hl, -, rfl⟩ := exists_label_of_labelName? hn
  exact List.filter_eq_nil_iff.mp h l hl hm

/-- **One call and the queue label.**  An action maps every issue of a server drained
from `s` by one function, and changes whether an issue carries `L` only when it is
`RemoveLabel` of `L` from that issue, after which the issue no longer carries it. -/
theorem issues_effect
    (huniq : ∀ l ∈ s.labels, ∀ l' ∈ s.labels, Strings.equalFold uc l.name L →
      Strings.equalFold uc l'.name L → l.id = l'.id)
    (hkey : key ≠ []) {a : ProviderAction} (ha : ∀ g' L', a = .removeLabel g' L' → L' = L)
    (t : LinearTracker) :
    ∃ f : LinearIssueRecord → LinearIssueRecord, (effect uc key s a t).issues = t.issues.map f ∧
      ∀ i, IssueDrains i (f i) ∧
        (s.carries uc (f i) L ↔ s.carries uc i L ∧ a ≠ .removeLabel i.id L) := by
  cases a with
  | comment g b =>
    refine ⟨fun i =>
        if i.id = g then { i with comments := i.comments ++ [Json.roundTrip b] } else i,
      by simp only [effect, if_neg hkey]; rfl, fun i => ?_⟩
    simp only [ne_eq, reduceCtorEq, not_false_eq_true, and_true]
    split
    · exact ⟨⟨rfl, List.Subset.refl _, List.prefix_append _ _⟩, Iff.rfl⟩
    · exact ⟨.refl i, Iff.rfl⟩
  | removeLabel g L' =>
    obtain rfl := ha g L' rfl
    simp only [ne_eq, ProviderAction.removeLabel.injEq, and_true]
    rcases hl : s.labels.filter fun l => Strings.equalFold uc l.name L' with _ | ⟨node, rest⟩
    · refine ⟨id, by simp only [effect, if_neg hkey, hl, List.map_id], fun i => ⟨.refl i, ?_⟩⟩
      by_cases hg : g = i.id
      · simp only [id, hg, not_true_eq_false, and_false, iff_false, Bool.not_eq_true]
        exact not_carries_of_nil hl
      · simp only [id, hg, not_false_eq_true, and_true]
    · refine ⟨fun i => if i.id = g then { i with labels := i.labels.filter fun l => l ≠ node.id }
        else i, by simp only [effect, if_neg hkey, hl]; rfl, fun i => ?_⟩
      by_cases hg : i.id = g
      · simp only [if_pos hg]
        refine ⟨⟨rfl, List.filter_subset' _, List.prefix_refl _⟩, ?_⟩
        simp only [hg, not_true_eq_false, and_false, iff_false, Bool.not_eq_true]
        refine Bool.eq_false_iff.mpr fun hc => ?_
        obtain ⟨lid, hlid, n, hn, hm⟩ := carries_iff.mp hc
        simp only [List.mem_filter, decide_eq_true_eq] at hlid
        exact hlid.2 (carried_eq_of_unique huniq hn hm (hl ▸ List.mem_cons_self node rest))
      · simp only [if_neg hg]
        exact ⟨.refl i, by simp only [Ne.symm hg, not_false_eq_true, and_true]⟩

/-- **A run and the queue label.**  After any run whose `RemoveLabel` calls are all of
`L`, an issue carries `L` exactly when it carried it before and the run never called
`RemoveLabel` of `L` on it. -/
theorem carries_run
    (huniq : ∀ l ∈ s.labels, ∀ l' ∈ s.labels, Strings.equalFold uc l.name L →
      Strings.equalFold uc l'.name L → l.id = l'.id)
    (hkey : key ≠ []) {acts : List ProviderAction}
    (hacts : ∀ g' L', .removeLabel g' L' ∈ acts → L' = L) :
    List.Forall₂ (fun i i' => IssueDrains i i' ∧
        (s.carries uc i' L ↔ s.carries uc i L ∧ .removeLabel i.id L ∉ acts))
      s.issues (run uc p key s acts).issues := by
  rw [run_eq_effects acts (.refl s)]
  induction acts using List.reverseRecOn with
  | nil => exact List.forall₂_same.mpr fun i _ => ⟨.refl i, by simp⟩
  | append_singleton acts a ih =>
    have ih := ih fun g' L' h => hacts g' L' (List.mem_append_left _ h)
    obtain ⟨f, hf, hfi⟩ := issues_effect huniq hkey (fun g' L' e => hacts g' L'
      (e ▸ List.mem_append_right _ (List.mem_singleton_self a)))
      (acts.foldl (fun x a => effect uc key s a x) s)
    rw [List.foldl_append, List.foldl_cons, List.foldl_nil, hf, List.forall₂_map_right_iff]
    refine ih.imp fun i i' ⟨hii, hc⟩ => ⟨hii.trans (hfi i').1, ?_⟩
    rw [(hfi i').2, hc, hii.id_eq]
    exact and_not_mem_snoc

/-- **The queue a run leaves.**  Under a unique queue label, after any run whose
`RemoveLabel` calls are all of `L`, `FetchIssues` with label `L` returns the first page of
the queue before the run with the issues the run called `RemoveLabel` on left out.  When
that queue fitted in one page, this is what `FetchIssues` returned before, less those
issues; otherwise issues from past the first page move up into it. -/
theorem fetchIssues_run_dequeues_issues
    (huniq : ∀ l ∈ s.labels, ∀ l' ∈ s.labels, Strings.equalFold uc l.name L →
      Strings.equalFold uc l'.name L → l.id = l'.id)
    (hkey : key ≠ []) (hL : L ≠ []) {acts : List ProviderAction}
    (hacts : ∀ g' L', .removeLabel g' L' ∈ acts → L' = L) {f : FilterConfig} (hf : f.label = L)
    (hteam : f.team ≠ []) :
    fetchIssues (api uc p.apiBase) (run uc p key s acts) p key f =
      .ok ((((s.queue uc f.team (some L)).filter fun i =>
        decide (ProviderAction.removeLabel i.id L ∉ acts)).map fun i => toIssue (node i)).take
          s.pageSize) := by
  have hd : Drains s (run uc p key s acts) := drains_run acts
  rw [fetchIssues_tracker hkey hteam, teamIssues_toIssue, hd.pageSize]
  congr 2
  simp only [queuedIssues, queue, hf, if_neg hL, Option.all_some, hd.carries_eq]
  refine filter_map_of_forall₂ (carries_run huniq hkey hacts) fun i _ i' ⟨hii, hc⟩ => ?_
  refine ⟨congrArg toIssue hii.node_eq, ?_⟩
  have hc' : s.carries uc i' L = (s.carries uc i L && decide (.removeLabel i.id L ∉ acts)) :=
    Bool.eq_iff_iff.mpr (by simpa only [Bool.and_eq_true, decide_eq_true_eq] using hc)
  simp only [hii.team_eq, hii.active_eq, hc', Bool.and_assoc]

/-- Starting work on the queued issue: a comment, then the removal of `Queued`. -/
theorem fetchIssues_run_dequeues_single_label :
    (∀ l ∈ singleLabel.labels, ∀ l' ∈ singleLabel.labels,
        Strings.equalFold UnicodeCase.identity l.name (lit "queued") →
        Strings.equalFold UnicodeCase.identity l'.name (lit "queued") → l.id = l'.id) ∧
      lit "key" ≠ [] ∧ lit "queued" ≠ [] ∧
      (∀ g' L', ProviderAction.removeLabel g' L' ∈ [.comment (lit "U1") (lit "Working on it"),
        .removeLabel (lit "U1") (lit "queued")] → L' = lit "queued") ∧
      (⟨lit "queued", [], lit "T"⟩ : FilterConfig).label = lit "queued" ∧
      (⟨lit "queued", [], lit "T"⟩ : FilterConfig).team ≠ [] ∧
      fetchIssues (api UnicodeCase.identity (lit "https://linear"))
          (run UnicodeCase.identity ⟨fun _ => true, lit "https://linear"⟩ (lit "key") singleLabel
            [.comment (lit "U1") (lit "Working on it"), .removeLabel (lit "U1") (lit "queued")])
          ⟨fun _ => true, lit "https://linear"⟩ (lit "key") ⟨lit "queued", [], lit "T"⟩ =
        .ok ((((singleLabel.queue UnicodeCase.identity (lit "T") (some (lit "queued"))).filter
          fun i => decide (ProviderAction.removeLabel i.id (lit "queued") ∉
            [ProviderAction.comment (lit "U1") (lit "Working on it"),
              .removeLabel (lit "U1") (lit "queued")])).map fun i => toIssue (node i)).take
          singleLabel.pageSize) :=
  ⟨by decide, by decide, by decide, removeLabel_mem_pair, rfl, by decide,
    fetchIssues_run_dequeues_issues (by decide) (by decide) (by decide) removeLabel_mem_pair rfl
      (by decide)⟩

end LinearTracker
end Erg
