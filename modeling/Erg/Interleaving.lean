import Erg.Queue

/-! # Provider actions in any order

Nothing in the providers orders their calls: each `RemoveLabel` and `Comment` is a
request, or for `RemoveLabel` on Asana a chain of requests, against whatever the server
holds when it arrives.  This module shows that the order of the calls of a run matters
only between comments on one issue:

* every call returns what it would have returned as the first call of the run
  (`task_outcomes_eq_map`, `issue_outcomes_eq_map`);
* two orders of the same calls that keep each issue's comments in order leave the server
  in the same state, and each call returns the same in both
  (`run_reorder_tasks`, `run_reorder_issues`);
* a `RemoveLabel` made again later in a run changes nothing
  (`run_repeat_removeLabel_tasks`, `run_repeat_removeLabel_issues`);
* a call that fails changes nothing: a run ends where its successful calls alone end
  (`run_drop_failed_tasks`, `run_drop_failed_issues`).

A call changes only the tags (labels) and stories (comments) of one issue, so what
`findTagGID` and the label search find stays what it was when the run started: each call
is read off that first server (`effect`, `step_eq_effect`).  Two such effects commute
unless both are comments on one issue (`effect_comm`), and the rest is a fact about folds
of commuting steps (`foldl_reorder`), proved as trace theory moves a letter to the front
past the letters it is independent of.
-/
namespace Erg
namespace ProviderAction

/-- The action is a comment on issue `g`. -/
def commentsOn (g : GoString) : ProviderAction → Bool
  | .removeLabel _ _ => false
  | .comment g' _ => g' = g

/-- Two actions whose order a server can tell apart: comments on one issue. -/
def Conflict (a b : ProviderAction) : Prop := ∃ g, a.commentsOn g ∧ b.commentsOn g

end ProviderAction

/-! ## Folds of commuting steps -/

section Reorder
variable {β : Type} {F : β → ProviderAction → β}
  (hF : ∀ x a b, ¬ a.Conflict b → F (F x a) b = F (F x b) a)
include hF

/-- An action that conflicts with none before it can be done first. -/
theorem foldl_move_front {a : ProviderAction} {post : List ProviderAction} :
    ∀ {pre : List ProviderAction} {x : β}, (∀ b ∈ pre, ¬ a.Conflict b) →
      (pre ++ a :: post).foldl F x = (pre ++ post).foldl F (F x a)
  | [], _, _ => rfl
  | b :: pre, x, h => by
    rw [List.cons_append, List.foldl_cons, foldl_move_front fun c hc => h c (.tail _ hc),
      ← hF x a b (h b (.head _))]
    rfl

/-- Two orders of the same actions with the same comments on each issue, in the same
order, give the same fold. -/
theorem foldl_reorder : ∀ {l l' : List ProviderAction} {x : β}, l.Perm l' →
    (∀ g, l.filter (·.commentsOn g) = l'.filter (·.commentsOn g)) → l.foldl F x = l'.foldl F x
  | [], l', x, hp, _ => by rw [← hp.nil_eq]
  | a :: l, l', x, hp, hc => by
    obtain ⟨pre, post, hnot, rfl, -⟩ := List.exists_erase_eq (hp.subset (List.mem_cons_self a l))
    -- `a` is the first comment on its issue in the second order too
    have hpre : ∀ g, a.commentsOn g → pre.filter (·.commentsOn g) = [] := fun g hag => by
      have h := hc g
      rw [List.filter_cons_of_pos hag, List.filter_append, List.filter_cons_of_pos hag] at h
      cases hpf : pre.filter (·.commentsOn g) with
      | nil => rfl
      | cons c rest =>
        rw [hpf, List.cons_append, List.cons.injEq] at h
        exact absurd (h.1 ▸ (List.mem_filter.mp (hpf ▸ List.mem_cons_self c rest)).1) hnot
    have hfree : ∀ b ∈ pre, ¬ a.Conflict b := fun b hb ⟨g, hag, hbg⟩ =>
      List.filter_eq_nil_iff.mp (hpre g hag) b hb hbg
    rw [foldl_move_front hF hfree, List.foldl_cons]
    refine foldl_reorder (List.Perm.cons_inv (hp.trans List.perm_middle)) fun g => ?_
    have h := hc g
    rw [List.filter_append] at h ⊢
    by_cases hag : a.commentsOn g
    · rw [List.filter_cons_of_pos hag, List.filter_cons_of_pos hag, hpre g hag] at h
      rw [hpre g hag]
      exact (List.cons.inj h).2
    · rwa [List.filter_cons_of_neg hag, List.filter_cons_of_neg hag] at h

/-- An action that conflicts with nothing and does nothing when done twice in a row does
nothing when done again. -/
theorem foldl_retry {a : ProviderAction} (ha : ∀ b, ¬ a.Conflict b)
    (hidem : ∀ x, F (F x a) a = F x a) {pre : List ProviderAction} (post : List ProviderAction)
    (hmem : a ∈ pre) (x : β) : (pre ++ a :: post).foldl F x = (pre ++ post).foldl F x := by
  obtain ⟨p₁, p₂, rfl⟩ := List.append_of_mem hmem
  have hfree : ∀ l : List ProviderAction, ∀ b ∈ l, ¬ a.Conflict b := fun _ b _ => ha b
  calc (p₁ ++ a :: p₂ ++ a :: post).foldl F x
      = (p₁ ++ p₂ ++ a :: post).foldl F (F x a) := by
        rw [List.append_assoc, List.cons_append, foldl_move_front hF (hfree p₁),
          ← List.append_assoc]
    _ = (p₁ ++ p₂ ++ post).foldl F (F (F x a) a) := foldl_move_front hF (hfree _)
    _ = (p₁ ++ (p₂ ++ post)).foldl F (F x a) := by rw [hidem, List.append_assoc]
    _ = (p₁ ++ a :: p₂ ++ post).foldl F x := by
        rw [List.append_assoc, List.cons_append]
        exact (foldl_move_front hF (hfree p₁)).symm

end Reorder

/-- Each action paired with its answer, for answers that do not depend on the order. -/
theorem perm_zip_map {γ : Type} {l l' : List ProviderAction} (h : l.Perm l')
    (f : ProviderAction → γ) : (l.zip (l.map f)).Perm (l'.zip (l'.map f)) := by
  have hz : ∀ l : List ProviderAction, l.zip (l.map f) = l.map fun a => (a, f a) := fun l => by
    simpa only [List.map_id] using List.zip_map' id f l
  rw [hz, hz]
  exact h.map _

theorem filter_zip_map {α γ : Type} (o : α → γ) (k : γ → Bool) :
    ∀ l : List α, ((l.zip (l.map o)).filter fun x => k x.2).map Prod.fst = l.filter fun a => k (o a)
  | [] => rfl
  | a :: l => by
    simp only [List.map_cons, List.zip_cons_cons, List.filter_cons]
    split <;> simp only [List.map_cons, filter_zip_map o k l]

/-- Steps that leave every state of an invariant fixed can be dropped from a fold. -/
theorem foldl_filter_of_fixed {β : Type} {F : β → ProviderAction → β} (I : β → Prop)
    (keep : ProviderAction → Bool) (hI : ∀ x a, I x → I (F x a))
    (hfix : ∀ x a, I x → keep a = false → F x a = x) :
    ∀ (l : List ProviderAction) (x : β), I x → l.foldl F x = (l.filter keep).foldl F x
  | [], _, _ => rfl
  | a :: l, x, hx => by
    cases hk : keep a
    · rw [List.foldl_cons, hfix x a hx hk, List.filter_cons_of_neg (by simp [hk])]
      exact foldl_filter_of_fixed I keep hI hfix l x hx
    · rw [List.foldl_cons, List.filter_cons_of_pos hk, List.foldl_cons]
      exact foldl_filter_of_fixed I keep hI hfix l _ (hI x a hx)

/-! ## Updates of one record -/

section Update
variable {α : Type} (key : α → GoString) {g g' : GoString} {f f' : α → α}

theorem map_update_comm (hf : ∀ r, key (f r) = key r) (hf' : ∀ r, key (f' r) = key r)
    (hc : g = g' → ∀ r, f' (f r) = f (f' r)) (l : List α) :
    (l.map fun r => if key r = g then f r else r).map (fun r => if key r = g' then f' r else r) =
      (l.map fun r => if key r = g' then f' r else r).map fun r => if key r = g then f r else r := by
  simp only [List.map_map]
  refine List.map_congr_left fun r _ => ?_
  simp only [Function.comp_apply]
  by_cases h1 : key r = g <;> by_cases h2 : key r = g'
  · rw [if_pos h1, if_pos h2, if_pos ((hf r).trans h2), if_pos ((hf' r).trans h1)]
    exact hc (h1.symm.trans h2) r
  · rw [if_pos h1, if_neg h2, if_neg (fun e => h2 ((hf r).symm.trans e)), if_pos h1]
  · rw [if_neg h1, if_pos h2, if_neg (fun e => h1 ((hf' r).symm.trans e))]
  · rw [if_neg h1, if_neg h2, if_neg h1]

theorem map_update_update (hf : ∀ r, key (f r) = key r) (l : List α) :
    (l.map fun r => if key r = g then f r else r).map (fun r => if key r = g then f' r else r) =
      l.map fun r => if key r = g then f' (f r) else r := by
  simp only [List.map_map]
  refine List.map_congr_left fun r _ => ?_
  by_cases h : key r = g
  · simp only [Function.comp_apply, if_pos h, if_pos ((hf r).trans h)]
  · simp only [Function.comp_apply, if_neg h]

end Update

/-! ## Asana -/

namespace AsanaTracker
open AsanaProvider

/-- The tag `RemoveLabel` of `L` from task `g` takes off: the GID `findTagGID` finds. -/
def removedTag? (s : AsanaTracker) (uc : UnicodeCase) (g L : GoString) : Option GoString :=
  ((s.task? g).map (·.workspace)).bind fun ws =>
    if ws = [] then none else (s.matchingTag? uc ws L).map (·.gid)

/-- What a call does to a server `t` that drained from `s`, read off `s`. -/
def effect (uc : UnicodeCase) (pat : GoString) (s : AsanaTracker) :
    ProviderAction → AsanaTracker → AsanaTracker
  | .removeLabel g L, t =>
    if pat = [] then t
    else match s.removedTag? uc g L with
      | some x => t.removeTag g x
      | none => t
  | .comment g body, t => if pat = [] then t else t.addStory g (Json.roundTrip body)

/-- What a call returns on server `s`. -/
def outcome (uc : UnicodeCase) (p : AsanaProvider) (pat : GoString) (s : AsanaTracker) :
    ProviderAction → Except GoError Unit
  | .removeLabel g L => (removeLabel uc (api p.apiBase) s p pat g L).1
  | .comment g body => (comment (api p.apiBase) s p pat g body).1

variable {s t : AsanaTracker} {uc : UnicodeCase} {p : AsanaProvider} {pat g L : GoString}

theorem TaskDrains.rel_workspace :
    ∀ {x y : Option AsanaTaskRecord}, Option.Rel TaskDrains x y →
      y.map (·.workspace) = x.map (·.workspace)
  | _, _, .some h => congrArg some (congrArg AsanaTaskRecord.workspace h.rest :)
  | _, _, .none => rfl

theorem Drains.workspace?_eq (h : Drains s t) : t.workspace? = s.workspace? := by
  funext ws
  simp only [workspace?, h.workspaces]

theorem Drains.matchingTag?_eq (h : Drains s t) : t.matchingTag? = s.matchingTag? := by
  funext uc ws L
  simp only [matchingTag?, h.workspace?_eq]

theorem Drains.removedTag?_eq (h : Drains s t) : t.removedTag? = s.removedTag? := by
  funext uc g L
  simp only [removedTag?, TaskDrains.rel_workspace (h.task? g), h.matchingTag?_eq]

theorem Drains.isSome_task? (h : Drains s t) (g : GoString) :
    (t.task? g).isSome = (s.task? g).isSome := by
  simpa only [Option.isSome_map'] using
    congrArg Option.isSome (TaskDrains.rel_workspace (h.task? g))

/-- `findTagGID` against the server. -/
theorem findTagGID_eq_ok_iff {x : GoString} :
    findTagGID uc (api p.apiBase) s p g L = .ok x ↔ s.removedTag? uc g L = some x := by
  rw [findTagGID_ok]
  simp only [api_taskWorkspace, api_tags, found_eq_ok, Option.map_eq_some', removedTag?,
    Option.bind_eq_some, matchingTag?]
  constructor
  · rintro ⟨ws, tags, tag, ⟨r, hr, rfl⟩, hws, ⟨w, hw, rfl⟩, hm, rfl⟩
    exact ⟨_, ⟨r, hr, rfl⟩, by simp [hws, hw, hm]⟩
  · rintro ⟨ws, ⟨r, hr, rfl⟩, h⟩
    by_cases hws : r.workspace = []
    · simp [hws] at h
    · simp only [hws, if_false, Option.map_eq_some', Option.bind_eq_some] at h
      obtain ⟨tag, ⟨w, hw, hm⟩, rfl⟩ := h
      exact ⟨_, _, tag, ⟨r, hr, rfl⟩, hws, ⟨w, hw, rfl⟩, hm, rfl⟩

theorem findTagGID_drains (h : Drains s t) :
    findTagGID uc (api p.apiBase) t p g L = findTagGID uc (api p.apiBase) s p g L := by
  simp only [findTagGID, api_taskWorkspace, api_tags, TaskDrains.rel_workspace (h.task? g),
    h.workspace?_eq]

theorem updateTask_of_none {f : AsanaTaskRecord → AsanaTaskRecord} (h : s.task? g = none) :
    s.updateTask g f = s := by
  have hg : ∀ r ∈ s.tasks, ¬ r.gid = g := by simpa [task?] using h
  cases s
  simp only [updateTask, AsanaTracker.mk.injEq, true_and]
  exact (List.map_congr_left fun r hr => if_neg (hg r hr)).trans (List.map_id' _)

/-- A call on a server that drained from `s` does what it would do on `s`. -/
theorem step_eq_effect (h : Drains s t) (a : ProviderAction) :
    step uc p pat t a = effect uc pat s a t := by
  by_cases hpat : pat = []
  · cases a <;> simp [step, effect, removeLabel, comment, hpat]
  cases a with
  | removeLabel g L =>
    simp only [step, effect, removeLabel, if_neg hpat, ← h.removedTag?_eq]
    rcases hx : t.removedTag? uc g L with _ | x
    · cases hf : findTagGID uc (api p.apiBase) t p g L with
      | error e => rfl
      | ok x => exact absurd (findTagGID_eq_ok_iff.mp hf) (by simp [hx])
    · rw [findTagGID_eq_ok_iff.mpr hx]
      simp only [api_post_removeTag]
      cases ht : t.task? g with
      | none => exact (updateTask_of_none ht).symm
      | some r => rfl
  | comment g body =>
    simp only [step, effect, comment, if_neg hpat, api_post_stories]
    cases ht : t.task? g with
    | none => exact (updateTask_of_none ht).symm
    | some r => rfl

/-- A call on a server that drained from `s` returns what it would return on `s`. -/
theorem outcome_drains (h : Drains s t) (a : ProviderAction) :
    outcome uc p pat t a = outcome uc p pat s a := by
  cases a with
  | removeLabel g L =>
    simp only [outcome, removeLabel, findTagGID_drains h, api_post_removeTag, h.isSome_task? g]
    repeat' split
    all_goals rfl
  | comment g body =>
    simp only [outcome, comment, api_post_stories, h.isSome_task? g]
    repeat' split
    all_goals rfl

theorem updateTask_comm {g g' : GoString} {f f' : AsanaTaskRecord → AsanaTaskRecord}
    (hf : ∀ r, (f r).gid = r.gid) (hf' : ∀ r, (f' r).gid = r.gid)
    (hc : g = g' → ∀ r, f' (f r) = f (f' r)) :
    (t.updateTask g f).updateTask g' f' = (t.updateTask g' f').updateTask g f :=
  congrArg (fun l => { t with tasks := l }) (map_update_comm _ hf hf' hc t.tasks)

theorem removeTag_comm (x y : GoString) {g g' : GoString} :
    (t.removeTag g x).removeTag g' y = (t.removeTag g' y).removeTag g x :=
  updateTask_comm (fun _ => rfl) (fun _ => rfl) fun _ r => by
    simp only [List.filter_filter, Bool.and_comm]

theorem removeTag_addStory_comm (x b : GoString) {g g' : GoString} :
    (t.removeTag g x).addStory g' b = (t.addStory g' b).removeTag g x :=
  updateTask_comm (fun _ => rfl) (fun _ => rfl) fun _ _ => rfl

theorem addStory_comm {g g' : GoString} (h : g ≠ g') (b b' : GoString) :
    (t.addStory g b).addStory g' b' = (t.addStory g' b').addStory g b :=
  updateTask_comm (fun _ => rfl) (fun _ => rfl) fun e => absurd e h

theorem effect_comm {a b : ProviderAction} (hab : ¬ a.Conflict b) (x : AsanaTracker) :
    effect uc pat s b (effect uc pat s a x) = effect uc pat s a (effect uc pat s b x) := by
  by_cases hpat : pat = []
  · cases a <;> cases b <;> simp [effect, hpat]
  cases a with
  | removeLabel g L =>
    cases b with
    | removeLabel g' L' =>
      simp only [effect, if_neg hpat]
      cases s.removedTag? uc g L <;> cases s.removedTag? uc g' L' <;> simp only [removeTag_comm]
    | comment g' body =>
      simp only [effect, if_neg hpat]
      cases s.removedTag? uc g L <;> simp only [removeTag_addStory_comm]
  | comment g body =>
    cases b with
    | removeLabel g' L' =>
      simp only [effect, if_neg hpat]
      cases s.removedTag? uc g' L' <;> simp only [removeTag_addStory_comm]
    | comment g' body' =>
      have hg : g ≠ g' := fun e => hab ⟨g, by simp [ProviderAction.commentsOn, e]⟩
      simp only [effect, if_neg hpat, addStory_comm hg]

theorem updateTask_updateTask {f f' : AsanaTaskRecord → AsanaTaskRecord}
    (hf : ∀ r, (f r).gid = r.gid) :
    (t.updateTask g f).updateTask g f' = t.updateTask g (f' ∘ f) :=
  congrArg (fun l => { t with tasks := l }) (map_update_update _ hf t.tasks)

theorem removeTag_removeTag (x : GoString) : (t.removeTag g x).removeTag g x = t.removeTag g x := by
  rw [removeTag, removeTag, updateTask_updateTask]
  · congr 1
    funext r
    simp only [Function.comp_apply, List.filter_filter, Bool.and_self]
  · exact fun _ => rfl

theorem effect_removeLabel_idem (x : AsanaTracker) :
    effect uc pat s (.removeLabel g L) (effect uc pat s (.removeLabel g L) x) =
      effect uc pat s (.removeLabel g L) x := by
  simp only [effect]
  split
  · rfl
  · split
    · exact removeTag_removeTag _
    · rfl

theorem run_eq_effects (acts : List ProviderAction) :
    ∀ {t}, Drains s t → run uc p pat t acts = acts.foldl (fun x a => effect uc pat s a x) t := by
  induction acts with
  | nil => exact fun _ => rfl
  | cons a acts ih =>
    intro t h
    simp only [run, List.foldl_cons] at ih ⊢
    rw [← step_eq_effect h]
    exact ih (h.trans (drains_step a))

/-- What each call of a run returns. -/
def outcomes (uc : UnicodeCase) (p : AsanaProvider) (pat : GoString) :
    AsanaTracker → List ProviderAction → List (Except GoError Unit)
  | _, [] => []
  | s, a :: acts => outcome uc p pat s a :: outcomes uc p pat (step uc p pat s a) acts

theorem outcomes_of_drains (acts : List ProviderAction) :
    ∀ {t}, Drains s t → outcomes uc p pat t acts = acts.map (outcome uc p pat s) := by
  induction acts with
  | nil => exact fun _ => rfl
  | cons a acts ih =>
    intro t h
    rw [outcomes, outcome_drains h, ih (h.trans (drains_step a)), List.map_cons]

/-- **No call changes another's answer.**  Every call of a run returns what it would
have returned as the run's first call. -/
theorem task_outcomes_eq_map (acts : List ProviderAction) :
    outcomes uc p pat s acts = acts.map (outcome uc p pat s) :=
  outcomes_of_drains acts (.refl s)

/-- **Only the order of each task's stories matters.**  Two orders of the same calls
that post each task's stories in the same order leave the server in the same state, and
each call returns the same in both. -/
theorem run_reorder_tasks {acts acts' : List ProviderAction} (hperm : acts.Perm acts')
    (hcomments : ∀ g, acts.filter (·.commentsOn g) = acts'.filter (·.commentsOn g)) :
    run uc p pat s acts = run uc p pat s acts' ∧
      (acts.zip (outcomes uc p pat s acts)).Perm (acts'.zip (outcomes uc p pat s acts')) := by
  refine ⟨?_, ?_⟩
  · rw [run_eq_effects acts (.refl s), run_eq_effects acts' (.refl s)]
    exact foldl_reorder (fun x a b hab => effect_comm hab x) hperm hcomments
  · rw [outcomes_of_drains _ (.refl s), outcomes_of_drains _ (.refl s)]
    exact perm_zip_map hperm _

/-- Starting work on the queued task: the story and the removal of `Queued`, in either
order. -/
theorem run_reorder_tasks_single_tag :
    [ProviderAction.comment (lit "3") (lit "Working on it"),
        .removeLabel (lit "3") (lit "queued")].Perm
      [.removeLabel (lit "3") (lit "queued"), .comment (lit "3") (lit "Working on it")] ∧
    (∀ g, [ProviderAction.comment (lit "3") (lit "Working on it"),
        .removeLabel (lit "3") (lit "queued")].filter (·.commentsOn g) =
      [ProviderAction.removeLabel (lit "3") (lit "queued"),
        .comment (lit "3") (lit "Working on it")].filter (·.commentsOn g)) ∧
    run UnicodeCase.identity ⟨fun _ => true, lit "https://asana"⟩ (lit "pat") singleTag
        [.comment (lit "3") (lit "Working on it"), .removeLabel (lit "3") (lit "queued")] =
      run UnicodeCase.identity ⟨fun _ => true, lit "https://asana"⟩ (lit "pat") singleTag
        [.removeLabel (lit "3") (lit "queued"), .comment (lit "3") (lit "Working on it")] ∧
    ([ProviderAction.comment (lit "3") (lit "Working on it"),
        .removeLabel (lit "3") (lit "queued")].zip
        (outcomes UnicodeCase.identity ⟨fun _ => true, lit "https://asana"⟩ (lit "pat") singleTag
          [.comment (lit "3") (lit "Working on it"), .removeLabel (lit "3") (lit "queued")])).Perm
      ([ProviderAction.removeLabel (lit "3") (lit "queued"),
        .comment (lit "3") (lit "Working on it")].zip
        (outcomes UnicodeCase.identity ⟨fun _ => true, lit "https://asana"⟩ (lit "pat") singleTag
          [.removeLabel (lit "3") (lit "queued"), .comment (lit "3") (lit "Working on it")])) :=
  ⟨.swap _ _ _, fun _ => rfl, run_reorder_tasks (.swap _ _ _) fun _ => rfl⟩

/-- **A repeated `RemoveLabel` changes nothing.**  Once a run has removed label `L`
from task `g`, removing it again, at any later point, leaves the server as it would be
without that call. -/
theorem run_repeat_removeLabel_tasks {pre : List ProviderAction} (post : List ProviderAction)
    (hmem : .removeLabel g L ∈ pre) :
    run uc p pat s (pre ++ .removeLabel g L :: post) = run uc p pat s (pre ++ post) := by
  rw [run_eq_effects _ (.refl s), run_eq_effects _ (.refl s)]
  exact foldl_retry (fun x a b hab => effect_comm hab x) (fun _ ⟨_, h, _⟩ => nomatch h)
    effect_removeLabel_idem post hmem s

theorem run_repeat_removeLabel_single_tag :
    ProviderAction.removeLabel (lit "3") (lit "queued") ∈
        [ProviderAction.removeLabel (lit "3") (lit "queued"), .comment (lit "3") (lit "Done")] ∧
      run UnicodeCase.identity ⟨fun _ => true, lit "https://asana"⟩ (lit "pat") singleTag
          ([.removeLabel (lit "3") (lit "queued"), .comment (lit "3") (lit "Done")] ++
            [.removeLabel (lit "3") (lit "queued")]) =
        run UnicodeCase.identity ⟨fun _ => true, lit "https://asana"⟩ (lit "pat") singleTag
          ([.removeLabel (lit "3") (lit "queued"), .comment (lit "3") (lit "Done")] ++ []) :=
  ⟨.head _, run_repeat_removeLabel_tasks [] (.head _)⟩

theorem drains_effect (a : ProviderAction) (t : AsanaTracker) : Drains t (effect uc pat s a t) := by
  cases a with
  | removeLabel g L =>
    simp only [effect]
    split
    · exact .refl t
    · split
      · exact drains_removeTag g _
      · exact .refl t
  | comment g b =>
    simp only [effect]
    split
    · exact .refl t
    · exact drains_addStory g (Json.roundTrip b)

/-- A call that fails on `s` does nothing to a server drained from `s`. -/
theorem effect_of_error (h : Drains s t) {a : ProviderAction} {e : GoError}
    (he : outcome uc p pat s a = .error e) : effect uc pat s a t = t := by
  by_cases hpat : pat = []
  · cases a <;> simp only [effect, if_pos hpat]
  cases a with
  | removeLabel g L =>
    simp only [effect, if_neg hpat]
    rcases hx : s.removedTag? uc g L with _ | x
    · rfl
    · obtain ⟨_, hws, -⟩ := Option.bind_eq_some.mp hx
      obtain ⟨r, hr, -⟩ := Option.map_eq_some'.mp hws
      simp only [outcome, removeLabel, if_neg hpat, findTagGID_eq_ok_iff.mpr hx,
        api_post_removeTag, hr, Option.isSome_some, if_true] at he
      cases he
  | comment g b =>
    simp only [effect, if_neg hpat]
    cases ht : s.task? g with
    | none =>
      exact updateTask_of_none (Option.not_isSome_iff_eq_none.mp (by simp [h.isSome_task? g, ht]))
    | some r =>
      simp only [outcome, comment, if_neg hpat, api_post_stories, ht, Option.isSome_some,
        if_true] at he
      cases he

/-- **Failed calls leave no trace.**  A run ends where the calls of it that returned
`nil`, alone and in the same order, would have left the server. -/
theorem run_drop_failed_tasks (acts : List ProviderAction) :
    run uc p pat s acts =
      run uc p pat s (((acts.zip (outcomes uc p pat s acts)).filter (·.2.toBool)).map (·.1)) := by
  rw [outcomes_of_drains acts (.refl s), filter_zip_map, run_eq_effects _ (.refl s),
    run_eq_effects _ (.refl s)]
  refine foldl_filter_of_fixed (Drains s) _ (fun x a hx => hx.trans (drains_effect a x))
    (fun x a hx hk => ?_) acts s (.refl s)
  cases ho : outcome uc p pat s a with
  | error e => exact effect_of_error hx ho
  | ok u => simp [ho, Except.toBool] at hk

end AsanaTracker

/-! ## Linear -/

namespace LinearTracker
open LinearProvider

/-- What a call does to a server `t` that drained from `s`, read off `s`: `RemoveLabel`
disconnects the first label of `s` whose name matches. -/
def effect (uc : UnicodeCase) (key : GoString) (s : LinearTracker) :
    ProviderAction → LinearTracker → LinearTracker
  | .removeLabel g L, t =>
    if key = [] then t
    else match s.labels.filter fun l => Strings.equalFold uc l.name L with
      | [] => t
      | node :: _ => t.disconnect g node.id
  | .comment g body, t => if key = [] then t else t.addComment g (Json.roundTrip body)

/-- What a call returns on server `s`. -/
def outcome (uc : UnicodeCase) (p : LinearProvider) (key : GoString) (s : LinearTracker) :
    ProviderAction → Except GoError Unit
  | .removeLabel g L => (removeLabel (api uc p.apiBase) s p key g L).1
  | .comment g body => (comment (api uc p.apiBase) s p key g body).1

variable {s t : LinearTracker} {uc : UnicodeCase} {p : LinearProvider} {key g L : GoString}

/-- `RemoveLabel` against the server. -/
theorem removeLabel_tracker :
    removeLabel (api uc p.apiBase) s p key g L =
      if key = [] then (.error (.errorf "LINEAR_API_KEY environment variable not set" []), s)
      else match s.labels.filter fun l => Strings.equalFold uc l.name L with
        | [] => (.error (.errorf "label %q not found in Linear" [.str L]), s)
        | node :: _ => (.ok (), s.disconnect g node.id) := by
  unfold removeLabel
  split
  · rfl
  · rw [api_issueLabels]
    cases s.labels.filter fun l => Strings.equalFold uc l.name L with
    | nil => rfl
    | cons node _ =>
      exact congrArg (fun r : Reply Unit × LinearTracker => (checkStatus
        "failed to create label removal request: %w" "failed to remove label: %w"
        "Linear API returned status %d for label removal" 200 r.1, r.2))
        (@api_issueLabelDisconnect s uc p.apiBase g node.id)

/-- `Comment` against the server. -/
theorem comment_tracker {body : GoString} :
    comment (api uc p.apiBase) s p key g body =
      if key = [] then (.error (.errorf "LINEAR_API_KEY environment variable not set" []), s)
      else (.ok (), s.addComment g (Json.roundTrip body)) := by
  unfold comment
  split
  · rfl
  · exact congrArg (fun r : Reply Unit × LinearTracker => (checkStatus
      "failed to create comment request: %w" "failed to create comment: %w"
      "Linear API returned status %d for comment creation" 200 r.1, r.2))
      (@api_commentCreate s uc p.apiBase g (Json.roundTrip body))

/-- A call on a server that drained from `s` does what it would do on `s`. -/
theorem step_eq_effect (h : Drains s t) (a : ProviderAction) :
    step uc p key t a = effect uc key s a t := by
  by_cases hkey : key = []
  · cases a <;> simp only [step, effect, removeLabel_tracker, comment_tracker, if_pos hkey]
  cases a with
  | removeLabel g L =>
    simp only [step, effect, removeLabel_tracker, if_neg hkey, h.labels]
    cases s.labels.filter fun l => Strings.equalFold uc l.name L <;> rfl
  | comment g body => simp only [step, effect, comment_tracker, if_neg hkey]

/-- A call on a server that drained from `s` returns what it would return on `s`. -/
theorem outcome_drains (h : Drains s t) (a : ProviderAction) :
    outcome uc p key t a = outcome uc p key s a := by
  by_cases hkey : key = []
  · cases a <;> simp only [outcome, removeLabel_tracker, comment_tracker, if_pos hkey]
  cases a with
  | removeLabel g L =>
    simp only [outcome, removeLabel_tracker, if_neg hkey, h.labels]
    cases s.labels.filter fun l => Strings.equalFold uc l.name L <;> rfl
  | comment g body => simp only [outcome, comment_tracker, if_neg hkey]

theorem ext_issues {t t' : LinearTracker} (hteams : t.teams = t'.teams)
    (hlabels : t.labels = t'.labels) (hpage : t.pageSize = t'.pageSize)
    (hissues : t.issues = t'.issues) : t = t' := by
  cases t
  cases t'
  congr

theorem updateIssue_comm {g g' : GoString} {f f' : LinearIssueRecord → LinearIssueRecord}
    {hf : ∀ i, (f i).identifier = i.identifier} {hf' : ∀ i, (f' i).identifier = i.identifier}
    (hid : ∀ i, (f i).id = i.id) (hid' : ∀ i, (f' i).id = i.id)
    (hc : g = g' → ∀ i, f' (f i) = f (f' i)) :
    (t.updateIssue g f hf).updateIssue g' f' hf' = (t.updateIssue g' f' hf').updateIssue g f hf :=
  ext_issues rfl rfl rfl (map_update_comm _ hid hid' hc t.issues)

theorem disconnect_comm (lid lid' : GoString) {g g' : GoString} :
    (t.disconnect g lid).disconnect g' lid' = (t.disconnect g' lid').disconnect g lid :=
  updateIssue_comm (fun _ => rfl) (fun _ => rfl) fun _ i => by
    simp only [List.filter_filter, Bool.and_comm]

theorem disconnect_addComment_comm (lid b : GoString) {g g' : GoString} :
    (t.disconnect g lid).addComment g' b = (t.addComment g' b).disconnect g lid :=
  updateIssue_comm (fun _ => rfl) (fun _ => rfl) fun _ _ => rfl

theorem addComment_comm {g g' : GoString} (h : g ≠ g') (b b' : GoString) :
    (t.addComment g b).addComment g' b' = (t.addComment g' b').addComment g b :=
  updateIssue_comm (fun _ => rfl) (fun _ => rfl) fun e => absurd e h

theorem disconnect_disconnect (lid : GoString) :
    (t.disconnect g lid).disconnect g lid = t.disconnect g lid := by
  refine ext_issues rfl rfl rfl ?_
  dsimp only [disconnect, updateIssue]
  rw [map_update_update]
  · exact List.map_congr_left fun i _ => by simp only [List.filter_filter, Bool.and_self]
  · exact fun _ => rfl

theorem effect_comm {a b : ProviderAction} (hab : ¬ a.Conflict b) (x : LinearTracker) :
    effect uc key s b (effect uc key s a x) = effect uc key s a (effect uc key s b x) := by
  by_cases hkey : key = []
  · cases a <;> cases b <;> simp [effect, hkey]
  cases a with
  | removeLabel g L =>
    cases b with
    | removeLabel g' L' =>
      simp only [effect, if_neg hkey]
      split <;> split <;> simp only [disconnect_comm]
    | comment g' body =>
      simp only [effect, if_neg hkey]
      split <;> simp only [disconnect_addComment_comm]
  | comment g body =>
    cases b with
    | removeLabel g' L' =>
      simp only [effect, if_neg hkey]
      split <;> simp only [disconnect_addComment_comm]
    | comment g' body' =>
      have hg : g ≠ g' := fun e => hab ⟨g, by simp [ProviderAction.commentsOn, e]⟩
      simp only [effect, if_neg hkey, addComment_comm hg]

theorem effect_removeLabel_idem (x : LinearTracker) :
    effect uc key s (.removeLabel g L) (effect uc key s (.removeLabel g L) x) =
      effect uc key s (.removeLabel g L) x := by
  simp only [effect]
  split
  · rfl
  · split
    · rfl
    · exact disconnect_disconnect _

theorem run_eq_effects (acts : List ProviderAction) :
    ∀ {t}, Drains s t → run uc p key t acts = acts.foldl (fun x a => effect uc key s a x) t := by
  induction acts with
  | nil => exact fun _ => rfl
  | cons a acts ih =>
    intro t h
    simp only [run, List.foldl_cons] at ih ⊢
    rw [← step_eq_effect h]
    exact ih (h.trans (drains_step a))

/-- What each call of a run returns. -/
def outcomes (uc : UnicodeCase) (p : LinearProvider) (key : GoString) :
    LinearTracker → List ProviderAction → List (Except GoError Unit)
  | _, [] => []
  | s, a :: acts => outcome uc p key s a :: outcomes uc p key (step uc p key s a) acts

theorem outcomes_of_drains (acts : List ProviderAction) :
    ∀ {t}, Drains s t → outcomes uc p key t acts = acts.map (outcome uc p key s) := by
  induction acts with
  | nil => exact fun _ => rfl
  | cons a acts ih =>
    intro t h
    rw [outcomes, outcome_drains h, ih (h.trans (drains_step a)), List.map_cons]

/-- **No call changes another's answer.**  Every call of a run returns what it would
have returned as the run's first call. -/
theorem issue_outcomes_eq_map (acts : List ProviderAction) :
    outcomes uc p key s acts = acts.map (outcome uc p key s) :=
  outcomes_of_drains acts (.refl s)

/-- **Only the order of each issue's comments matters.**  Two orders of the same calls
that post each issue's comments in the same order leave the server in the same state,
and each call returns the same in both. -/
theorem run_reorder_issues {acts acts' : List ProviderAction} (hperm : acts.Perm acts')
    (hcomments : ∀ g, acts.filter (·.commentsOn g) = acts'.filter (·.commentsOn g)) :
    run uc p key s acts = run uc p key s acts' ∧
      (acts.zip (outcomes uc p key s acts)).Perm (acts'.zip (outcomes uc p key s acts')) := by
  refine ⟨?_, ?_⟩
  · rw [run_eq_effects acts (.refl s), run_eq_effects acts' (.refl s)]
    exact foldl_reorder (fun x a b hab => effect_comm hab x) hperm hcomments
  · rw [outcomes_of_drains _ (.refl s), outcomes_of_drains _ (.refl s)]
    exact perm_zip_map hperm _

/-- Starting work on the queued issue: the comment and the removal of `Queued`, in
either order. -/
theorem run_reorder_issues_single_label :
    [ProviderAction.comment (lit "U1") (lit "Working on it"),
        .removeLabel (lit "U1") (lit "queued")].Perm
      [.removeLabel (lit "U1") (lit "queued"), .comment (lit "U1") (lit "Working on it")] ∧
    (∀ g, [ProviderAction.comment (lit "U1") (lit "Working on it"),
        .removeLabel (lit "U1") (lit "queued")].filter (·.commentsOn g) =
      [ProviderAction.removeLabel (lit "U1") (lit "queued"),
        .comment (lit "U1") (lit "Working on it")].filter (·.commentsOn g)) ∧
    run UnicodeCase.identity ⟨fun _ => true, lit "https://linear"⟩ (lit "key") singleLabel
        [.comment (lit "U1") (lit "Working on it"), .removeLabel (lit "U1") (lit "queued")] =
      run UnicodeCase.identity ⟨fun _ => true, lit "https://linear"⟩ (lit "key") singleLabel
        [.removeLabel (lit "U1") (lit "queued"), .comment (lit "U1") (lit "Working on it")] ∧
    ([ProviderAction.comment (lit "U1") (lit "Working on it"),
        .removeLabel (lit "U1") (lit "queued")].zip
        (outcomes UnicodeCase.identity ⟨fun _ => true, lit "https://linear"⟩ (lit "key")
          singleLabel
          [.comment (lit "U1") (lit "Working on it"), .removeLabel (lit "U1") (lit "queued")])).Perm
      ([ProviderAction.removeLabel (lit "U1") (lit "queued"),
        .comment (lit "U1") (lit "Working on it")].zip
        (outcomes UnicodeCase.identity ⟨fun _ => true, lit "https://linear"⟩ (lit "key")
          singleLabel
          [.removeLabel (lit "U1") (lit "queued"), .comment (lit "U1") (lit "Working on it")])) :=
  ⟨.swap _ _ _, fun _ => rfl, run_reorder_issues (.swap _ _ _) fun _ => rfl⟩

/-- **A repeated `RemoveLabel` changes nothing.**  Once a run has removed label `L`
from issue `g`, removing it again, at any later point, leaves the server as it would be
without that call. -/
theorem run_repeat_removeLabel_issues {pre : List ProviderAction} (post : List ProviderAction)
    (hmem : .removeLabel g L ∈ pre) :
    run uc p key s (pre ++ .removeLabel g L :: post) = run uc p key s (pre ++ post) := by
  rw [run_eq_effects _ (.refl s), run_eq_effects _ (.refl s)]
  exact foldl_retry (fun x a b hab => effect_comm hab x) (fun _ ⟨_, h, _⟩ => nomatch h)
    effect_removeLabel_idem post hmem s

theorem run_repeat_removeLabel_single_label :
    ProviderAction.removeLabel (lit "U1") (lit "queued") ∈
        [ProviderAction.removeLabel (lit "U1") (lit "queued"), .comment (lit "U1") (lit "Done")] ∧
      run UnicodeCase.identity ⟨fun _ => true, lit "https://linear"⟩ (lit "key") singleLabel
          ([.removeLabel (lit "U1") (lit "queued"), .comment (lit "U1") (lit "Done")] ++
            [.removeLabel (lit "U1") (lit "queued")]) =
        run UnicodeCase.identity ⟨fun _ => true, lit "https://linear"⟩ (lit "key") singleLabel
          ([.removeLabel (lit "U1") (lit "queued"), .comment (lit "U1") (lit "Done")] ++ []) :=
  ⟨.head _, run_repeat_removeLabel_issues [] (.head _)⟩

/-- A call that fails on `s` does nothing to any server. -/
theorem effect_of_error {a : ProviderAction} {e : GoError}
    (he : outcome uc p key s a = .error e) : effect uc key s a t = t := by
  by_cases hkey : key = []
  · cases a <;> simp only [effect, if_pos hkey]
  cases a with
  | removeLabel g L =>
    rcases hl : s.labels.filter fun l => Strings.equalFold uc l.name L with _ | ⟨node, rest⟩
    · simp only [effect, if_neg hkey, hl]
    · simp only [outcome, removeLabel_tracker, if_neg hkey, hl] at he
      cases he
  | comment g b =>
    simp only [outcome, comment_tracker, if_neg hkey] at he
    cases he

/-- **Failed calls leave no trace.**  A run ends where the calls of it that returned
`nil`, alone and in the same order, would have left the server. -/
theorem run_drop_failed_issues (acts : List ProviderAction) :
    run uc p key s acts =
      run uc p key s (((acts.zip (outcomes uc p key s acts)).filter (·.2.toBool)).map (·.1)) := by
  rw [outcomes_of_drains acts (.refl s), filter_zip_map, run_eq_effects _ (.refl s),
    run_eq_effects _ (.refl s)]
  refine foldl_filter_of_fixed (fun _ => True) _ (fun _ _ _ => trivial)
    (fun x a _ hk => ?_) acts s trivial
  cases ho : outcome uc p key s a with
  | error e => exact effect_of_error ho
  | ok u => simp [ho, Except.toBool] at hk

end LinearTracker

end Erg
