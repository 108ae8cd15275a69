import Erg.AsanaTracker
import Erg.LinearTracker

/-! # What `RemoveLabel` takes off

The daemon removes the queue label from an issue it has picked up, so that the next
`FetchIssues` with that label does not hand it out again.  Both providers look the
label up *by name* and remove *one* tag or label: Asana's `findTagGID` returns the first
tag of the task's workspace whose name `EqualFold`s the label, Linear's `RemoveLabel`
disconnects `Nodes[0]` of a case-insensitive label search.  Neither asks whether the
issue carries that tag or label, and `FetchIssues` matches any tag or label of the
issue.

So a successful `RemoveLabel` does not always dequeue the issue: on a server with two
tags (labels) whose names differ only in case, listed `Queued` before `queued`, an issue
carrying only `queued` keeps it, and `FetchIssues` with label `queued` returns the issue
again.  The servers `caseVariantTags` and `caseVariantLabels` are the two instances: on
them, whatever the Unicode case tables, `RemoveLabel` returns `nil` and the issue stays
queued (`removeLabel_can_keep_match`), although the doc comments of both functions say
that they remove the label from the issue.  What `RemoveLabel` does on every server is
`RemovedFirstMatch` (`removeLabel_removes_first_match`).
-/
namespace Erg

/-- An Asana workspace with tags `Queued` and `queued`, in that order, and a project
whose one task carries only `queued`. -/
def caseVariantTags : AsanaTracker where
  workspaces := [⟨lit "1", lit "Work", [⟨lit "11", lit "Queued"⟩, ⟨lit "12", lit "queued"⟩]⟩]
  projects := [⟨lit "2", lit "1", lit "Board", [lit "3"]⟩]
  tasks := [⟨lit "3", lit "1", lit "Fix it", [], [], false, [lit "12"], []⟩]

/-- A Linear server with labels `Queued` and `queued`, in that order, and an active
issue of team `T` carrying only `queued`. -/
def caseVariantLabels : LinearTracker where
  teams := [⟨lit "T", lit "Engineering"⟩]
  labels := [⟨lit "L1", lit "Queued"⟩, ⟨lit "L2", lit "queued"⟩]
  issues := [⟨lit "U1", lit "ENG-1", lit "T", lit "Fix it", [], [], true, [lit "L2"], []⟩]
  pageSize := 50
  identifiers_nodup := List.nodup_singleton _

/-- A successful `RemoveLabel` need not leave the issue without a matching tag or label,
nor keep `FetchIssues` from returning it: for no case tables does that hold of every
server. -/
theorem removeLabel_can_keep_match :
    (¬ ∃ uc : UnicodeCase, ∀ (s : AsanaTracker) (p : AsanaProvider) (pat g L : GoString),
      L ≠ [] → (AsanaProvider.removeLabel uc (AsanaTracker.api p.apiBase) s p pat g L).1 = .ok () →
      let s' := (AsanaProvider.removeLabel uc (AsanaTracker.api p.apiBase) s p pat g L).2
      (∀ t, s'.task? g = some t → ∀ e ∈ t.tags, ∀ n, s'.tagName? t.workspace e = some n →
        Strings.equalFold uc n L = false) ∧
      ∀ (f : FilterConfig) (issues : List Issue), f.label = L →
        AsanaProvider.fetchIssues uc (AsanaTracker.api p.apiBase) s' p pat f = .ok issues →
        ∀ i ∈ issues, i.id ≠ g) ∧
    (¬ ∃ uc : UnicodeCase, ∀ (s : LinearTracker) (p : LinearProvider) (key g L : GoString),
      L ≠ [] → (LinearProvider.removeLabel (LinearTracker.api uc p.apiBase) s p key g L).1 = .ok () →
      let s' := (LinearProvider.removeLabel (LinearTracker.api uc p.apiBase) s p key g L).2
      (∀ i, s'.issue? g = some i → s'.carries uc i L = false) ∧
      ∀ (f : FilterConfig) (i : LinearIssueRecord) (issues : List Issue), f.label = L →
        s'.issue? g = some i →
        LinearProvider.fetchIssues (LinearTracker.api uc p.apiBase) s' p key f = .ok issues →
        ∀ j ∈ issues, j.id ≠ i.identifier) := by
  constructor
  · rintro ⟨uc, h⟩
    obtain ⟨-, hfetch⟩ := h caseVariantTags ⟨fun _ => true, lit "https://asana"⟩ (lit "pat")
      (lit "3") (lit "queued") (by decide) rfl
    exact hfetch ⟨lit "queued", lit "2", []⟩ _ rfl rfl _ (List.mem_singleton_self _) rfl
  · rintro ⟨uc, h⟩
    obtain ⟨-, hfetch⟩ := h caseVariantLabels ⟨fun _ => true, lit "https://linear"⟩ (lit "key")
      (lit "U1") (lit "queued") (by decide) rfl
    exact hfetch ⟨lit "queued", [], lit "T"⟩ _ _ rfl rfl rfl _ (List.mem_singleton_self _) rfl

end Erg
