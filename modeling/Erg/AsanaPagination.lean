import Erg.Asana

/-! # Asana project listing, page by page

`FetchProjects` asks for the user's workspaces, then for each workspace walks the
projects endpoint's pages: the first URL is the workspace's base URL `b`, and each page
with a non-empty `next_page.offset` sends the next request to `b ++ "&offset=" ++ offset`.
Nothing bounds that walk but the server, so what `FetchProjects` returns depends on it:
for every API in which each workspace's chain of pages ends (`PageChain`, an inductive derivation,
so a finite one), `FetchProjects` returns the concatenation of all pages' projects, in
workspace order and page order, renamed when there are several workspaces; or, when a
request along the way failed, an error and no list.

The model's loops run on fuel.  The run lemmas below give a bound past which every fuel
gives that answer (`projectsLoop_of_chain`, `workspacesLoop_of_chains`), so the result is
not "correct if it returns": the loops do return.  Without fuel they give no other
answer (`projectsLoop_chain_or_none`), and the last section shows the other side of the
condition: a chain that never ends, such as a server that repeats one offset, keeps
`FetchProjects` from returning at all (`fetchProjects_endless`).
-/
namespace Erg
namespace AsanaProvider

variable {σ : Type} (api : AsanaAPI σ) (st : σ)

/-- **The page chain of a workspace with base URL `b`, from URL `u`**, as the server hands
it out.  `PageChain b u (some pss)`: the pages from `u` on all came back, each with
a non-empty offset until the last, whose offset is empty or absent, and `pss` are their
projects in chain order.  `PageChain b u none`: a request of the chain failed. -/
inductive PageChain (b : GoString) : GoString → Option (List (List AsanaProject)) → Prop
  | fail {u : GoString} : (api.projects st u).ok? = none → PageChain b u none
  | last {u : GoString} {page : AsanaProjectsResponse} :
      (api.projects st u).ok? = some page → (∀ np ∈ page.nextPage, np.offset = []) →
      PageChain b u (some [page.data])
  | next {u : GoString} {page : AsanaProjectsResponse} {np : AsanaNextPage}
      {r : Option (List (List AsanaProject))} :
      (api.projects st u).ok? = some page → page.nextPage = some np → np.offset ≠ [] →
      PageChain b (b ++ lit "&offset=" ++ np.offset) r →
      PageChain b u (r.map (page.data :: ·))

/-- What `FetchProjects` returns for the workspaces `wss` whose chains end with
`outcome`: the concatenation over the workspaces, in order, of their chains'
projects, GID unchanged and named `workspace / project` when there are several
workspaces; `none` when some chain failed. -/
def expectedProjects (multi : Bool) (outcome : AsanaWorkspace → Option (List (List AsanaProject))) :
    List AsanaWorkspace → Option (List AsanaProject)
  | [] => some []
  | w :: wss =>
    match outcome w, expectedProjects multi outcome wss with
    | some pss, some rest =>
      some (pss.flatten.map (fun proj =>
        { gid := proj.gid, name := if multi then w.name ++ lit " / " ++ proj.name else proj.name })
        ++ rest)
    | _, _ => none

/-! ## One page -/

theorem fetchProjectsPage_of_ok {u : GoString} {page : AsanaProjectsResponse}
    (h : (api.projects st u).ok? = some page) :
    fetchProjectsPage api st u = .ok (page.data, nextOffset page) := by
  rw [Reply.ok?_eq_some] at h
  simp [fetchProjectsPage, h, receive, Except.mapError]

theorem fetchProjectsPage_of_fail {u : GoString} (h : (api.projects st u).ok? = none) :
    ∃ e, fetchProjectsPage api st u = .error e := by
  obtain ⟨e, he⟩ : ∃ e, receive "failed to create request: %w" "failed to fetch projects: %w"
      "Asana API returned status %d for projects" "failed to parse projects response: %w"
      (api.projects st u) = .error e := receive_eq_error h
  exact ⟨e, by simp [fetchProjectsPage, he]⟩

/-! ## The page loop -/

/-- **The page loop walks the chain.**  Past the chain's length, every fuel runs the
loop to the chain's end: it returns the accumulated `acc` followed by every page's
projects, or an error when a request of the chain failed. -/
theorem projectsLoop_of_chain {b u : GoString} {r : Option (List (List AsanaProject))}
    (h : PageChain api st b u r) :
    ∃ n, ∀ fuel, n ≤ fuel → ∀ acc, ∃ res, projectsLoop api st b fuel u acc = some res ∧
      res.toOption = r.map fun pss => acc ++ pss.flatten := by
  induction h with
  | fail hu =>
    obtain ⟨e, he⟩ := fetchProjectsPage_of_fail api st hu
    refine ⟨1, fun fuel hf acc => ?_⟩
    obtain ⟨k, rfl⟩ : ∃ k, fuel = k + 1 := ⟨fuel - 1, by omega⟩
    exact ⟨.error e, by simp [projectsLoop, he], rfl⟩
  | @last u page hu hend =>
    have hoff : nextOffset page = [] := by
      cases hp : page.nextPage with
      | none => simp [nextOffset, hp]
      | some np => simpa [nextOffset, hp] using hend np hp
    refine ⟨1, fun fuel hf acc => ?_⟩
    obtain ⟨k, rfl⟩ : ∃ k, fuel = k + 1 := ⟨fuel - 1, by omega⟩
    exact ⟨.ok (acc ++ page.data), by simp [projectsLoop, fetchProjectsPage_of_ok api st hu, hoff],
      by simp [Except.toOption]⟩
  | @next u page np r hu hnp hoff _ ih =>
    obtain ⟨n, hn⟩ := ih
    refine ⟨n + 1, fun fuel hf acc => ?_⟩
    obtain ⟨k, rfl⟩ : ∃ k, fuel = k + 1 := ⟨fuel - 1, by omega⟩
    obtain ⟨res, hres, hto⟩ := hn k (by omega) (acc ++ page.data)
    rw [List.append_assoc] at hres
    refine ⟨res, ?_, by rw [hto]; cases r <;> simp⟩
    simp [projectsLoop, fetchProjectsPage_of_ok api st hu, nextOffset, hnp, hoff, hres]

/-! ## The workspace loop -/

variable (p : AsanaProvider)

/-- **The workspace loop visits every workspace's chain in order.**  Past the longest
chain, every fuel runs the loop to its end, appending each workspace's projects, renamed,
to `acc`, or stopping at the first workspace whose chain failed. -/
theorem workspacesLoop_of_chains (multi : Bool)
    (outcome : AsanaWorkspace → Option (List (List AsanaProject))) :
    ∀ wss : List AsanaWorkspace,
      (∀ w ∈ wss, PageChain api st (projectsURL p.apiBase w.gid) (projectsURL p.apiBase w.gid)
        (outcome w)) →
      ∃ n, ∀ fuel, n ≤ fuel → ∀ acc, ∃ res, workspacesLoop api st p fuel multi wss acc = some res ∧
        res.toOption = (expectedProjects multi outcome wss).map (acc ++ ·)
  | [], _ => ⟨0, fun _ _ acc => ⟨.ok acc, rfl, by simp [expectedProjects, Except.toOption]⟩⟩
  | w :: wss, hch => by
    obtain ⟨n₁, h₁⟩ := projectsLoop_of_chain api st (hch w (List.mem_cons_self w wss))
    obtain ⟨n₂, h₂⟩ := workspacesLoop_of_chains multi outcome wss
      fun v hv => hch v (List.mem_cons_of_mem w hv)
    refine ⟨max n₁ n₂, fun fuel hf acc => ?_⟩
    obtain ⟨res₁, hres₁, hto₁⟩ := h₁ fuel ((le_max_left _ _).trans hf) []
    cases hw : outcome w with
    | none =>
      obtain ⟨e, rfl⟩ := toOption_eq_none.mp (by simpa [hw] using hto₁)
      exact ⟨.error (.wrapf "failed to fetch projects for workspace %q: %w" [.str w.name] e),
        by simp [workspacesLoop, fetchWorkspaceProjects, hres₁],
        by simp [expectedProjects, hw, Except.toOption]⟩
    | some pss =>
      have hok := toOption_eq_some.mp (by simpa [hw] using hto₁)
      subst hok
      obtain ⟨res₂, hres₂, hto₂⟩ := h₂ fuel ((le_max_right _ _).trans hf)
        (acc ++ pss.flatten.map fun proj => { gid := proj.gid, name := projectName multi w proj })
      refine ⟨res₂, by simpa [workspacesLoop, fetchWorkspaceProjects, hres₁] using hres₂, ?_⟩
      rw [hto₂]
      rcases he : expectedProjects multi outcome wss with _ | rest <;>
        simp [expectedProjects, hw, he, projectName]

/-- **`FetchProjects` returns every project of every page exactly once, or fails as a
whole.**  With the token set: when the workspaces request fails, the result is an error;
when it returns `wss` and every workspace's page chain ends (in success or in a failed
request), then from some fuel on `FetchProjects` returns, and returns exactly what
`expectedProjects` says: the concatenation over workspaces, in order, and over their
pages, in chain order, of every project, GID unchanged and named
`workspace / project` exactly when there is more than one workspace; or, when a request
failed, an error and no list. -/
theorem fetchProjects_pages {pat : GoString} (hpat : pat ≠ []) :
    ((api.workspaces st (workspacesURL p.apiBase)).ok? = none →
      ∀ fuel, ∃ e, fetchProjects api st p fuel pat = some (.error e)) ∧
    ∀ (wss : List AsanaWorkspace) (outcome : AsanaWorkspace → Option (List (List AsanaProject))),
      (api.workspaces st (workspacesURL p.apiBase)).ok? = some wss →
      (∀ w ∈ wss, PageChain api st (projectsURL p.apiBase w.gid) (projectsURL p.apiBase w.gid)
        (outcome w)) →
      ∃ n, ∀ fuel, n ≤ fuel → ∃ res, fetchProjects api st p fuel pat = some res ∧
        res.toOption = expectedProjects (decide (1 < wss.length)) outcome wss := by
  refine ⟨fun hws fuel => ?_, fun wss outcome hws hch => ?_⟩
  · obtain ⟨e, he⟩ : ∃ e, fetchWorkspaces api st p = .error e := receive_eq_error hws
    exact ⟨e, by simp [fetchProjects, hpat, he]⟩
  · have hfw : fetchWorkspaces api st p = .ok wss := receive_eq_ok.mpr (Reply.ok?_eq_some.mp hws)
    by_cases hnil : wss = []
    · subst hnil
      exact ⟨0, fun _ _ => ⟨.ok [], by simp [fetchProjects, hpat, hfw], rfl⟩⟩
    · obtain ⟨n, hn⟩ := workspacesLoop_of_chains api st p (decide (1 < wss.length)) outcome wss hch
      refine ⟨n, fun fuel hf => ?_⟩
      obtain ⟨res, hres, hto⟩ := hn fuel hf []
      exact ⟨res, by simp [fetchProjects, hpat, hfw, hnil, hres], by simpa using hto⟩

/-- Two workspaces, `Eng` and `Ops`; `Eng` lists its projects on two pages, and `Ops`
ends its only page with an empty offset. -/
def twoWorkspacesAPI : AsanaAPI Unit where
  tasks _ _ := .failed []
  workspaces _ _ := .response 200 (.ok [⟨lit "1", lit "Eng"⟩, ⟨lit "2", lit "Ops"⟩])
  projects _ u :=
    if u = projectsURL (lit "b") (lit "1") then
      .response 200 (.ok ⟨[⟨lit "10", lit "Api"⟩], some ⟨lit "x"⟩⟩)
    else if u = projectsURL (lit "b") (lit "1") ++ lit "&offset=" ++ lit "x" then
      .response 200 (.ok ⟨[⟨lit "11", lit "Web"⟩], none⟩)
    else if u = projectsURL (lit "b") (lit "2") then
      .response 200 (.ok ⟨[⟨lit "20", lit "Infra"⟩], some ⟨[]⟩⟩)
    else .response 404 (.error [])
  taskWorkspace _ _ := .failed []
  tags _ _ := .failed []
  post s _ _ := (.failed [], s)

theorem fetchProjects_two_workspaces :
    lit "pat" ≠ [] ∧ ∃ n, ∀ fuel, n ≤ fuel → ∃ res,
      fetchProjects twoWorkspacesAPI () ⟨fun _ => true, lit "b"⟩ fuel (lit "pat") = some res ∧
        res.toOption = some [⟨lit "10", lit "Eng / Api"⟩, ⟨lit "11", lit "Eng / Web"⟩,
          ⟨lit "20", lit "Ops / Infra"⟩] := by
  refine ⟨by decide, ?_⟩
  obtain ⟨n, hn⟩ := (fetchProjects_pages twoWorkspacesAPI () ⟨fun _ => true, lit "b"⟩
    (by decide : lit "pat" ≠ [])).2 _
    (fun w => if w.gid = lit "1" then some [[⟨lit "10", lit "Api"⟩], [⟨lit "11", lit "Web"⟩]]
      else some [[⟨lit "20", lit "Infra"⟩]]) rfl (by
    intro w hw
    simp only [List.mem_cons, List.mem_singleton, List.not_mem_nil, or_false] at hw
    rcases hw with rfl | rfl
    · exact @PageChain.next _ _ _ _ _ ⟨[⟨lit "10", lit "Api"⟩], some ⟨lit "x"⟩⟩ ⟨lit "x"⟩
        (some [[⟨lit "11", lit "Web"⟩]]) rfl rfl (by decide)
        (@PageChain.last _ _ _ _ _ ⟨[⟨lit "11", lit "Web"⟩], none⟩ rfl (by simp))
    · exact @PageChain.last _ _ _ _ _ ⟨[⟨lit "20", lit "Infra"⟩], some ⟨[]⟩⟩ rfl (by simp))
  exact ⟨n, fun fuel hf => (hn fuel hf).imp fun res h => ⟨h.1, h.2.trans (by decide)⟩⟩

/-! ## Pages without end

Nothing but the server ends the page loop.  On a chain that ends, the loop with any fuel
has run out or returned the chain's answer (`projectsLoop_chain_or_none`); on a chain
that never ends, every fuel runs out (`projectsLoop_endless`), and so does
`FetchProjects` once it reaches such a workspace (`fetchProjects_endless`).  A server that
repeats one non-empty offset is such a chain. -/

theorem projectsLoop_succ_of_ok {b u : GoString} {page : AsanaProjectsResponse}
    (hu : (api.projects st u).ok? = some page) (fuel : Nat) (acc : List AsanaProject) :
    projectsLoop api st b (fuel + 1) u acc =
      if nextOffset page = [] then some (.ok (acc ++ page.data))
      else projectsLoop api st b fuel (b ++ lit "&offset=" ++ nextOffset page)
        (acc ++ page.data) := by
  simp only [projectsLoop, fetchProjectsPage_of_ok api st hu]

theorem nextOffset_of_nextPage {page : AsanaProjectsResponse} {np : AsanaNextPage}
    (h : page.nextPage = some np) : nextOffset page = np.offset := by
  simp only [nextOffset, h]

/-- **Out of fuel, or the chain's answer.**  Whatever the fuel, the page loop on a chain
that ends has run out or returned what the chain gives. -/
theorem projectsLoop_chain_or_none {b u : GoString} {r : Option (List (List AsanaProject))}
    (h : PageChain api st b u r) (fuel : Nat) (acc : List AsanaProject) :
    projectsLoop api st b fuel u acc = none ∨ ∃ res, projectsLoop api st b fuel u acc = some res ∧
      res.toOption = r.map fun pss => acc ++ pss.flatten := by
  induction h generalizing fuel acc with
  | fail hu =>
    obtain ⟨e, he⟩ := fetchProjectsPage_of_fail api st hu
    cases fuel with
    | zero => exact .inl rfl
    | succ k => exact .inr ⟨.error e, by simp only [projectsLoop, he], rfl⟩
  | @last u page hu hend =>
    have hoff : nextOffset page = [] := by
      cases hp : page.nextPage with
      | none => simp only [nextOffset, hp]
      | some np => rw [nextOffset_of_nextPage hp]; exact hend np hp
    cases fuel with
    | zero => exact .inl rfl
    | succ k =>
      rw [projectsLoop_succ_of_ok api st hu, if_pos hoff]
      exact .inr ⟨_, rfl, by simp [Except.toOption]⟩
  | @next u page np r hu hnp hoff _ ih =>
    cases fuel with
    | zero => exact .inl rfl
    | succ k =>
      rw [projectsLoop_succ_of_ok api st hu, nextOffset_of_nextPage hnp, if_neg hoff]
      refine (ih k (acc ++ page.data)).imp_right fun ⟨res, hres, hto⟩ => ⟨res, hres, ?_⟩
      rw [hto]
      cases r <;> simp

/-- **A chain without end exhausts every fuel.**  When every URL of a set `S` that the
loop reaches comes back with a non-empty offset that leads to another URL of `S`, the
page loop never returns. -/
theorem projectsLoop_endless {b : GoString} (S : GoString → Prop)
    (hS : ∀ u, S u → ∃ page np, (api.projects st u).ok? = some page ∧ page.nextPage = some np ∧
      np.offset ≠ [] ∧ S (b ++ lit "&offset=" ++ np.offset)) :
    ∀ fuel u acc, S u → projectsLoop api st b fuel u acc = none
  | 0, _, _, _ => rfl
  | fuel + 1, u, acc, hu => by
    obtain ⟨page, np, hp, hnp, hoff, hnext⟩ := hS u hu
    rw [projectsLoop_succ_of_ok api st hp, nextOffset_of_nextPage hnp, if_neg hoff]
    exact projectsLoop_endless S hS fuel _ _ hnext

/-- The workspace loop runs out of fuel at a workspace whose page loop does, when the
chains of the workspaces before it end in success. -/
theorem workspacesLoop_endless {w : AsanaWorkspace}
    (hw : ∀ fuel, fetchWorkspaceProjects api st p fuel w.gid = none) (multi : Bool)
    (post : List AsanaWorkspace) :
    ∀ pre : List AsanaWorkspace, (∀ v ∈ pre, ∃ pss, PageChain api st
        (projectsURL p.apiBase v.gid) (projectsURL p.apiBase v.gid) (some pss)) →
      ∀ fuel acc, workspacesLoop api st p fuel multi (pre ++ w :: post) acc = none
  | [], _, fuel, acc => by simp only [List.nil_append, workspacesLoop, hw fuel]
  | v :: pre, hpre, fuel, acc => by
    obtain ⟨pss, hv⟩ := hpre v (List.mem_cons_self v pre)
    rcases projectsLoop_chain_or_none api st hv fuel [] with h | ⟨res, hres, hto⟩
    · simp only [List.cons_append, workspacesLoop, fetchWorkspaceProjects, h]
    · obtain rfl := toOption_eq_some.mp hto
      simp only [List.cons_append, workspacesLoop, fetchWorkspaceProjects, hres]
      exact workspacesLoop_endless hw multi post pre (fun v' hv' => hpre v' (.tail v hv')) fuel _

/-- **`FetchProjects` has no page limit.**  With the token set, when the workspaces come
back as `pre ++ w :: post`, the page chains of the workspaces of `pre` end in success,
and the chain of `w` never ends (every URL of a set `S` holding `w`'s base URL comes back
with a non-empty offset leading to another URL of `S`), `FetchProjects` returns nothing,
whatever the fuel. -/
theorem fetchProjects_endless {pat : GoString} (hpat : pat ≠ []) (pre : List AsanaWorkspace)
    (w : AsanaWorkspace) (post : List AsanaWorkspace)
    (hws : (api.workspaces st (workspacesURL p.apiBase)).ok? = some (pre ++ w :: post))
    (hpre : ∀ v ∈ pre, ∃ pss, PageChain api st (projectsURL p.apiBase v.gid)
      (projectsURL p.apiBase v.gid) (some pss))
    (S : GoString → Prop) (hw : S (projectsURL p.apiBase w.gid))
    (hS : ∀ u, S u → ∃ page np, (api.projects st u).ok? = some page ∧ page.nextPage = some np ∧
      np.offset ≠ [] ∧ S (projectsURL p.apiBase w.gid ++ lit "&offset=" ++ np.offset)) :
    ∀ fuel, fetchProjects api st p fuel pat = none := by
  intro fuel
  have hfw : fetchWorkspaces api st p = .ok (pre ++ w :: post) :=
    receive_eq_ok.mpr (Reply.ok?_eq_some.mp hws)
  simp only [fetchProjects, if_neg hpat, hfw, if_neg (List.append_ne_nil_of_right_ne_nil pre
    (List.cons_ne_nil w post))]
  exact workspacesLoop_endless api st p
    (fun fuel => projectsLoop_endless api st S hS fuel _ [] hw) _ post pre hpre fuel []

/-- A server that answers every projects request with the same page, whose offset `x`
names the next one. -/
def repeatedOffsetAPI : AsanaAPI Unit where
  tasks _ _ := .failed []
  workspaces _ _ := .response 200 (.ok [⟨lit "1", lit "Eng"⟩])
  projects _ _ := .response 200 (.ok ⟨[⟨lit "10", lit "Api"⟩], some ⟨lit "x"⟩⟩)
  taskWorkspace _ _ := .failed []
  tags _ _ := .failed []
  post s _ _ := (.failed [], s)

theorem fetchProjects_repeated_offset :
    lit "pat" ≠ [] ∧
      (repeatedOffsetAPI.workspaces () (workspacesURL (lit "b"))).ok? =
        some ([] ++ ⟨lit "1", lit "Eng"⟩ :: []) ∧
      (∀ v ∈ ([] : List AsanaWorkspace), ∃ pss, PageChain repeatedOffsetAPI ()
        (projectsURL (lit "b") v.gid) (projectsURL (lit "b") v.gid) (some pss)) ∧
      (∀ u : GoString, True → ∃ page np, (repeatedOffsetAPI.projects () u).ok? = some page ∧
        page.nextPage = some np ∧ np.offset ≠ [] ∧ True) ∧
      ∀ fuel, fetchProjects repeatedOffsetAPI () ⟨fun _ => true, lit "b"⟩ fuel (lit "pat") = none :=
  have hS : ∀ u : GoString, True → ∃ page np, (repeatedOffsetAPI.projects () u).ok? = some page ∧
      page.nextPage = some np ∧ np.offset ≠ [] ∧ True :=
    fun _ _ => ⟨_, _, rfl, rfl, by decide, trivial⟩
  ⟨by decide, rfl, fun _ h => absurd h (List.not_mem_nil _), hS,
    fetchProjects_endless repeatedOffsetAPI () ⟨fun _ => true, lit "b"⟩ (by decide) [] _ []
      rfl (fun _ h => absurd h (List.not_mem_nil _)) (fun _ => True) trivial hS⟩

end AsanaProvider
end Erg
