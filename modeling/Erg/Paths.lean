import Erg.Wire

/-! # Where Erg keeps its files

The `paths` package decides, once per process, where configuration, data and state
live, and caches the answer in the package variable `resolved`:

1. if `~/.erg/` is a directory, everything is under it (the legacy layout);
2. else if one of `XDG_CONFIG_HOME`, `XDG_DATA_HOME`, `XDG_STATE_HOME` is set, each kind
   of file goes to `erg` under its variable, unset ones taking their XDG defaults;
3. else everything is under `~/.erg/` again.

Under `go test`, when `HOME` is still the home directory `init` saw, `resolve` redirects
to a temporary directory made once per test binary (`testFallbackOnce`).

Every exported function takes the package mutex around the whole of `resolve` (or of the
reset), so calls are atomic and any interleaving of concurrent calls is a sequence of
them: the package is a state machine whose state is its variables (`State`) and whose
input, at each call, is what the operating system answers (`Env`).  `filepath.Join` is
modelled from its source, over `filepath.Clean`, which is a parameter.

The results: a cached layout is returned whatever the environment (`resolve_cached`), a
successful resolution is cached (`resolve_state`), so from the first successful call to the
next `Reset` every call answers from the layout that call cached, whatever the environment
does meanwhile (`answers_of_resolved`, `runCalls_fresh`); and which layout the first
resolution chooses (`resolve_fresh`).  The test redirect looks at `HOME` only: a
test that sets the XDG variables but not `HOME` is redirected too, although the package
comment counts such a test as one that overrides the paths.  `Reset` clears the cached
layout but not `testFallbackOnce`, so a test binary makes at most one temporary
directory, and every later redirected resolution reads it (`resolve_after_run`).
-/
namespace Erg
namespace Paths

/-! ## State and environment -/

/-- What the operating system answers during one call. -/
structure Env where
  /-- `os.UserHomeDir()`. -/
  userHomeDir : Except GoError GoString
  /-- `os.Stat(path)` succeeds and reports a directory. -/
  isDir : GoString → Bool
  /-- `os.Getenv(key)`. -/
  getenv : GoString → GoString
  /-- `testing.Testing()`. -/
  testing : Bool
  /-- The directory `os.MkdirTemp("", "erg-test-paths-*")` creates; empty when it
  fails. -/
  mkdirTemp : GoString

/-- `resolvedPaths`. -/
structure ResolvedPaths where
  configDir : GoString
  dataDir : GoString
  stateDir : GoString
  legacy : Bool
deriving DecidableEq, Repr

/-- The package variables. -/
structure State where
  /-- `resolved`: the cached layout. -/
  resolved : Option ResolvedPaths
  /-- `origHome`, set by `init`. -/
  origHome : GoString
  /-- `testFallbackDir`, once `testFallbackOnce` has run. -/
  testFallbackDir : Option GoString
deriving DecidableEq, Repr

/-- The state `init` leaves: `origHome, _ = os.UserHomeDir()`, the empty string on
error. -/
def init (env : Env) : State :=
  { resolved := none, origHome := env.userHomeDir.toOption.getD [], testFallbackDir := none }

section
variable (clean : GoString → GoString) (env : Env)

/-- `filepath.Join` on Unix: the elements from the first non-empty one on, joined by
`/` and cleaned; empty when every element is. -/
def join (elem : List GoString) : GoString :=
  match elem.dropWhile (· = []) with
  | [] => []
  | rest => clean ((lit "/").intercalate rest)

/-! ## Resolution -/

/-- The legacy layout: everything under `dir`. -/
def legacyPaths (dir : GoString) : ResolvedPaths :=
  { configDir := dir, dataDir := dir, stateDir := dir, legacy := true }

/-- `resolveNormal`: the three-step resolution order, caching what it chooses. -/
def resolveNormal (home : GoString) (s : State) : Except GoError ResolvedPaths × State :=
  let legacyDir := join clean [home, lit ".erg"]
  if env.isDir legacyDir then
    (.ok (legacyPaths legacyDir), { s with resolved := some (legacyPaths legacyDir) })
  else
    let xdgConfig := env.getenv (lit "XDG_CONFIG_HOME")
    let xdgData := env.getenv (lit "XDG_DATA_HOME")
    let xdgState := env.getenv (lit "XDG_STATE_HOME")
    if xdgConfig ≠ [] ∨ xdgData ≠ [] ∨ xdgState ≠ [] then
      let xdgConfig := if xdgConfig = [] then join clean [home, lit ".config"] else xdgConfig
      let xdgData := if xdgData = [] then join clean [home, lit ".local", lit "share"] else xdgData
      let xdgState :=
        if xdgState = [] then join clean [home, lit ".local", lit "state"] else xdgState
      let r : ResolvedPaths :=
        { configDir := join clean [xdgConfig, lit "erg"], dataDir := join clean [xdgData, lit "erg"],
          stateDir := join clean [xdgState, lit "erg"], legacy := false }
      (.ok r, { s with resolved := some r })
    else (.ok (legacyPaths legacyDir), { s with resolved := some (legacyPaths legacyDir) })

/-- The base directory of one XDG variable: its value, or `default` when it is unset. -/
def xdgBase (key : String) (default : GoString) : GoString :=
  if env.getenv (lit key) = [] then default else env.getenv (lit key)

/-- The XDG layout for home directory `home`: `erg` under each base directory. -/
def xdgPaths (home : GoString) : ResolvedPaths :=
  { configDir := join clean [xdgBase env "XDG_CONFIG_HOME" (join clean [home, lit ".config"]),
      lit "erg"],
    dataDir := join clean [xdgBase env "XDG_DATA_HOME" (join clean [home, lit ".local", lit "share"]),
      lit "erg"],
    stateDir := join clean
      [xdgBase env "XDG_STATE_HOME" (join clean [home, lit ".local", lit "state"]), lit "erg"],
    legacy := false }

/-- The layout the resolution order chooses: legacy when `~/.erg/` is a directory or no
XDG variable is set, XDG otherwise. -/
def normalPaths (home : GoString) : ResolvedPaths :=
  if env.isDir (join clean [home, lit ".erg"]) ∨
      (env.getenv (lit "XDG_CONFIG_HOME") = [] ∧ env.getenv (lit "XDG_DATA_HOME") = [] ∧
        env.getenv (lit "XDG_STATE_HOME") = [])
  then legacyPaths (join clean [home, lit ".erg"])
  else xdgPaths clean env home

/-- The layout under the test binary's temporary directory `dir`. -/
def fallbackPaths (dir : GoString) : ResolvedPaths :=
  { configDir := join clean [dir, lit "config", lit "erg"],
    dataDir := join clean [dir, lit "data", lit "erg"],
    stateDir := join clean [dir, lit "state", lit "erg"], legacy := false }

/-- `resolveTestFallback`: the temporary directory, made on the first call; normal
resolution when it could not be made. -/
def resolveTestFallback (s : State) : Except GoError ResolvedPaths × State :=
  let testFallbackDir := s.testFallbackDir.getD env.mkdirTemp
  let s := { s with testFallbackDir := some testFallbackDir }
  if testFallbackDir = [] then
    match env.userHomeDir with
    | .error err => (.error err, s)
    | .ok home => resolveNormal clean env home s
  else (.ok (fallbackPaths clean testFallbackDir),
    { s with resolved := some (fallbackPaths clean testFallbackDir) })

/-- `resolve`: the cached layout, or a new one. -/
def resolve (s : State) : Except GoError ResolvedPaths × State :=
  match s.resolved with
  | some r => (.ok r, s)
  | none =>
    match env.userHomeDir with
    | .error err => (.error err, s)
    | .ok home =>
      if env.testing ∧ home = s.origHome then resolveTestFallback clean env s
      else resolveNormal clean env home s

/-! ## The exported functions -/

/-- `ConfigDir`, `DataDir` and `StateDir`: one directory of the layout. -/
def dir (field : ResolvedPaths → GoString) (s : State) : Except GoError GoString × State :=
  ((resolve clean env s).1.map field, (resolve clean env s).2)

/-- `ConfigDir`. -/
def configDir : State → Except GoError GoString × State := dir clean env ResolvedPaths.configDir

/-- `DataDir`. -/
def dataDir : State → Except GoError GoString × State := dir clean env ResolvedPaths.dataDir

/-- `StateDir`. -/
def stateDir : State → Except GoError GoString × State := dir clean env ResolvedPaths.stateDir

/-- `ConfigFilePath`, `SessionsDir`, `LogsDir` and `WorktreesDir`: a name joined to one
directory of the layout. -/
def under (field : ResolvedPaths → GoString) (name : String) (s : State) :
    Except GoError GoString × State :=
  ((dir clean env field s).1.map fun d => join clean [d, lit name], (dir clean env field s).2)

/-- `ConfigFilePath`. -/
def configFilePath : State → Except GoError GoString × State :=
  under clean env ResolvedPaths.configDir "config.json"

/-- `SessionsDir`. -/
def sessionsDir : State → Except GoError GoString × State :=
  under clean env ResolvedPaths.dataDir "sessions"

/-- `LogsDir`. -/
def logsDir : State → Except GoError GoString × State :=
  under clean env ResolvedPaths.stateDir "logs"

/-- `WorktreesDir`. -/
def worktreesDir : State → Except GoError GoString × State :=
  under clean env ResolvedPaths.dataDir "worktrees"

/-- `IsLegacyLayout`: the legacy flag, `true` when resolution fails. -/
def isLegacyLayout (s : State) : Bool × State :=
  (match (resolve clean env s).1 with
    | .error _ => true
    | .ok r => r.legacy, (resolve clean env s).2)

end

/-- `Reset`. -/
def reset (s : State) : State := { s with resolved := none }

/-! ## Resolution, step by step -/

section Resolve
variable {clean : GoString → GoString} {env : Env} {s : State} {r : ResolvedPaths}

/-- **A cached layout is returned as it is**, whatever the environment answers. -/
theorem resolve_cached (h : s.resolved = some r) : resolve clean env s = (.ok r, s) := by
  simp [resolve, h]

/-- `resolveNormal` always succeeds, with the layout of the resolution order, and caches
it. -/
theorem resolveNormal_eq {home : GoString} :
    resolveNormal clean env home s =
      (.ok (normalPaths clean env home), { s with resolved := some (normalPaths clean env home) }) := by
  unfold resolveNormal normalPaths xdgPaths xdgBase
  dsimp only
  by_cases hd : env.isDir (join clean [home, lit ".erg"]) = true
  · rw [if_pos hd, if_pos (.inl hd)]
  rw [if_neg hd]
  by_cases hx : env.getenv (lit "XDG_CONFIG_HOME") ≠ [] ∨ env.getenv (lit "XDG_DATA_HOME") ≠ [] ∨
      env.getenv (lit "XDG_STATE_HOME") ≠ []
  · rw [if_pos hx]
    simp only [ne_eq, ← not_and_or] at hx
    simp only [hd, hx, Bool.false_eq_true, or_self, if_false]
  · rw [if_neg hx]
    simp only [ne_eq, not_or, not_not] at hx
    simp only [hx, and_self, or_true, if_true]

/-- **The first resolution.**  With nothing cached and `HOME` found, `resolve` redirects to
the temporary layout exactly in a test binary whose `HOME` is the one `init` saw and whose
temporary directory is made, and it then reads neither the XDG variables nor `~/.erg/`;
otherwise it follows the resolution order. -/
theorem resolve_fresh {home : GoString} (hs : s.resolved = none)
    (hh : env.userHomeDir = .ok home) :
    (resolve clean env s).1 =
      .ok (if env.testing ∧ home = s.origHome ∧ s.testFallbackDir.getD env.mkdirTemp ≠ []
        then fallbackPaths clean (s.testFallbackDir.getD env.mkdirTemp)
        else normalPaths clean env home) := by
  simp only [resolve, hs, hh]
  by_cases ht : env.testing ∧ home = s.origHome
  · by_cases hd : s.testFallbackDir.getD env.mkdirTemp = []
    · simp [ht, hd, resolveTestFallback, hh, resolveNormal_eq]
    · simp [ht, hd, resolveTestFallback]
  · rw [if_neg ht, resolveNormal_eq, if_neg fun h => ht ⟨h.1, h.2.1⟩]

/-- **What `resolve` can do to the package variables**: cache what it returns (the
layout, or nothing when it fails) and run `testFallbackOnce`, whose directory it never
changes once made. -/
theorem resolve_shape : ∃ tfd, (resolve clean env s).2 =
      { s with resolved := (resolve clean env s).1.toOption, testFallbackDir := tfd } ∧
      ∀ d, s.testFallbackDir = some d → tfd = some d := by
  obtain ⟨resolved, origHome, testFallbackDir⟩ := s
  rcases resolved with _ | r
  · rcases hh : env.userHomeDir with e | home
    · exact ⟨testFallbackDir, by simp [resolve, hh, Except.toOption], fun _ => id⟩
    by_cases ht : env.testing ∧ home = origHome
    · refine ⟨some (testFallbackDir.getD env.mkdirTemp), ?_,
        fun d (hd : testFallbackDir = some d) => by rw [hd]; rfl⟩
      simp only [resolve, hh, if_pos ht, resolveTestFallback]
      split
      · simp [hh, resolveNormal_eq, Except.toOption]
      · rfl
    · exact ⟨testFallbackDir, by simp [resolve, hh, ht, resolveNormal_eq, Except.toOption],
        fun _ => id⟩
  · exact ⟨testFallbackDir, rfl, fun _ => id⟩

/-- `resolve` keeps `origHome`, and leaves cached exactly what it returned: the layout,
or nothing when it failed. -/
theorem resolve_state :
    (resolve clean env s).2.origHome = s.origHome ∧
      (resolve clean env s).2.resolved = (resolve clean env s).1.toOption := by
  obtain ⟨tfd, h, -⟩ := @resolve_shape clean env s
  rw [h]
  exact ⟨rfl, rfl⟩

/-- `resolve` keeps the test directory once `testFallbackOnce` has run. -/
theorem resolve_testFallbackDir {d : GoString} (hd : s.testFallbackDir = some d) :
    (resolve clean env s).2.testFallbackDir = some d := by
  obtain ⟨tfd, h, htfd⟩ := @resolve_shape clean env s
  rw [h]
  exact htfd d hd

end Resolve

/-- A test binary whose `HOME` is the one `init` saw, with every XDG variable set and
`~/.erg/` present, and whose temporary directory is `/tmp/erg-test-paths-1`. -/
def testEnv : Env :=
  { userHomeDir := .ok (lit "/home/u"), isDir := fun _ => true, getenv := fun _ => lit "/xdg",
    testing := true, mkdirTemp := lit "/tmp/erg-test-paths-1" }

/-! ## Calls -/

/-- A call of one of the package's exported functions. -/
inductive Call where
  | configDir
  | dataDir
  | stateDir
  | configFilePath
  | sessionsDir
  | logsDir
  | worktreesDir
  | isLegacyLayout
  | reset
deriving DecidableEq, Repr

/-- What a call returns. -/
inductive Answer where
  | path (r : Except GoError GoString)
  | legacy (b : Bool)
  | done
deriving DecidableEq, Repr

namespace Call
variable (clean : GoString → GoString)

/-- One call, made while the operating system answers as `env`. -/
def apply (env : Env) : Call → State → Answer × State
  | .configDir, s => (.path (Paths.configDir clean env s).1, (Paths.configDir clean env s).2)
  | .dataDir, s => (.path (Paths.dataDir clean env s).1, (Paths.dataDir clean env s).2)
  | .stateDir, s => (.path (Paths.stateDir clean env s).1, (Paths.stateDir clean env s).2)
  | .configFilePath, s =>
    (.path (Paths.configFilePath clean env s).1, (Paths.configFilePath clean env s).2)
  | .sessionsDir, s => (.path (Paths.sessionsDir clean env s).1, (Paths.sessionsDir clean env s).2)
  | .logsDir, s => (.path (Paths.logsDir clean env s).1, (Paths.logsDir clean env s).2)
  | .worktreesDir, s =>
    (.path (Paths.worktreesDir clean env s).1, (Paths.worktreesDir clean env s).2)
  | .isLegacyLayout, s =>
    (.legacy (Paths.isLegacyLayout clean env s).1, (Paths.isLegacyLayout clean env s).2)
  | .reset, s => (.done, Paths.reset s)

/-- What a call other than `Reset` answers once `resolve` has returned `res`. -/
def answer : Call → Except GoError ResolvedPaths → Answer
  | .configDir, res => .path (res.map (·.configDir))
  | .dataDir, res => .path (res.map (·.dataDir))
  | .stateDir, res => .path (res.map (·.stateDir))
  | .configFilePath, res => .path (res.map fun r => join clean [r.configDir, lit "config.json"])
  | .sessionsDir, res => .path (res.map fun r => join clean [r.dataDir, lit "sessions"])
  | .logsDir, res => .path (res.map fun r => join clean [r.stateDir, lit "logs"])
  | .worktreesDir, res => .path (res.map fun r => join clean [r.dataDir, lit "worktrees"])
  | .isLegacyLayout, res => .legacy (match res with
    | .error _ => true
    | .ok r => r.legacy)
  | .reset, _ => .done

end Call

/-- A sequence of calls, each made while the operating system answers as its
environment. -/
def runCalls (clean : GoString → GoString) : List (Call × Env) → State → List Answer × State
  | [], s => ([], s)
  | (c, env) :: calls, s =>
    ((c.apply clean env s).1 :: (runCalls clean calls (c.apply clean env s).2).1,
      (runCalls clean calls (c.apply clean env s).2).2)

/-! ## Runs -/

section Runs
variable {clean : GoString → GoString} {env : Env} {s : State} {r : ResolvedPaths}

/-- Every call but `Reset` is `resolve` followed by a reading of its result. -/
theorem apply_eq {c : Call} (hc : c ≠ .reset) :
    c.apply clean env s = (c.answer clean (resolve clean env s).1, (resolve clean env s).2) := by
  cases c <;> first
    | exact absurd rfl hc
    | rfl
    | simp only [Call.apply, Call.answer, configFilePath, sessionsDir, logsDir, worktreesDir,
        dir, under]
      cases (resolve clean env s).1 <;> rfl

theorem apply_of_resolved {c : Call} (h : s.resolved = some r) (hc : c ≠ .reset) :
    c.apply clean env s = (c.answer clean (.ok r), s) := by
  rw [apply_eq hc, resolve_cached h]

theorem runCalls_of_cached (h : s.resolved = some r) :
    ∀ {calls : List (Call × Env)}, (∀ c ∈ calls, c.1 ≠ .reset) →
      runCalls clean calls s = (calls.map fun c => c.1.answer clean (.ok r), s)
  | [], _ => rfl
  | (c, env) :: calls, hno => by
    simp only [runCalls, apply_of_resolved h (hno _ (.head _)),
      runCalls_of_cached h fun c hc => hno c (.tail _ hc), List.map_cons]

/-- **Once resolved, the package answers from its layout alone.**  From a state with a
cached layout `r`, a sequence of calls without `Reset` answers each call from `r`,
whatever the operating system answers meanwhile, and leaves the state as it was. -/
theorem answers_of_resolved (h : s.resolved = some r) :
    ∀ {calls : List (Call × Env)}, (∀ c ∈ calls, c.1 ≠ .reset) →
      runCalls clean calls s = (calls.map fun c => c.1.answer clean (.ok r), s) :=
  runCalls_of_cached h

/-- An environment in which resolution follows the resolution order to the legacy
layout under `/home/u`. -/
def plainEnv : Env :=
  { userHomeDir := .ok (lit "/home/u"), isDir := fun _ => false, getenv := fun _ => [],
    testing := false, mkdirTemp := [] }

theorem answers_of_resolved_legacy :
    (⟨some (legacyPaths (lit "/home/u/.erg")), lit "/home/u", none⟩ : State).resolved =
        some (legacyPaths (lit "/home/u/.erg")) ∧
      (∀ c ∈ [(Call.configDir, plainEnv), (Call.isLegacyLayout, plainEnv)], c.1 ≠ .reset) ∧
      runCalls id [(Call.configDir, plainEnv), (Call.isLegacyLayout, plainEnv)]
          ⟨some (legacyPaths (lit "/home/u/.erg")), lit "/home/u", none⟩ =
        ([(Call.configDir, plainEnv), (Call.isLegacyLayout, plainEnv)].map fun c =>
            c.1.answer id (.ok (legacyPaths (lit "/home/u/.erg"))),
          ⟨some (legacyPaths (lit "/home/u/.erg")), lit "/home/u", none⟩) :=
  ⟨rfl, by decide, answers_of_resolved rfl (by decide)⟩

/-- **Every run reads the layout its first successful call caches.**  From a state with
nothing cached, a sequence of calls without `Reset` fails for a while and then answers
every call from one layout: the first `k` calls fail, each with its own error, and leave
nothing cached; when a call follows them, `resolve` returns a layout `r` on the state they
left and in that call's environment, every call from it on answers from `r`, and `r` is
what the run leaves cached. -/
theorem runCalls_fresh {calls : List (Call × Env)} (hs : s.resolved = none)
    (hno : ∀ c ∈ calls, c.1 ≠ .reset) :
    ∃ k, List.Forall₂ (fun c a => ∃ e, a = c.1.answer clean (.error e)) (calls.take k)
        ((runCalls clean calls s).1.take k) ∧
      (runCalls clean (calls.take k) s).2.resolved = none ∧
      ∀ c env, (calls.drop k).head? = some (c, env) → ∃ r,
        (resolve clean env (runCalls clean (calls.take k) s).2).1 = .ok r ∧
        (runCalls clean calls s).1.drop k = (calls.drop k).map (fun c => c.1.answer clean (.ok r)) ∧
        (runCalls clean calls s).2.resolved = some r := by
  induction calls generalizing s with
  | nil => exact ⟨0, .nil, hs, fun _ _ h => nomatch h⟩
  | cons call calls ih =>
    obtain ⟨c, env⟩ := call
    have ha : c.apply clean env s =
        (c.answer clean (resolve clean env s).1, (resolve clean env s).2) :=
      apply_eq (hno _ (.head _))
    have hst : (resolve clean env s).2.resolved = (resolve clean env s).1.toOption :=
      resolve_state.2
    have hno' : ∀ c ∈ calls, c.1 ≠ .reset := fun c hc => hno c (.tail _ hc)
    rcases hres : (resolve clean env s).1 with e | r
    · rw [hres] at hst
      obtain ⟨k, h₁, h₂, h₃⟩ := ih hst hno'
      refine ⟨k + 1, .cons ⟨e, ?_⟩ ?_, ?_, ?_⟩
      · simp [runCalls, ha, hres]
      · simpa [runCalls, ha] using h₁
      · simpa [runCalls, ha] using h₂
      · simpa [runCalls, ha] using h₃
    · rw [hres] at hst
      refine ⟨0, .nil, hs, fun c' env' h => ?_⟩
      obtain ⟨rfl, rfl⟩ : c = c' ∧ env = env' := by simpa using h
      have hrun : runCalls clean calls _ = _ := runCalls_of_cached hst hno'
      exact ⟨r, hres, by simp [runCalls, ha, hres, hrun],
        by simp [runCalls, ha, hrun, hst, Except.toOption]⟩

theorem runCalls_fresh_plain :
    (init plainEnv).resolved = none ∧
      (∀ c ∈ [(Call.logsDir, plainEnv), (Call.configDir, plainEnv)], c.1 ≠ .reset) ∧
      ∃ k, List.Forall₂ (fun c a => ∃ e, a = c.1.answer id (.error e))
          ([(Call.logsDir, plainEnv), (Call.configDir, plainEnv)].take k)
          ((runCalls id [(Call.logsDir, plainEnv), (Call.configDir, plainEnv)]
            (init plainEnv)).1.take k) ∧
        (runCalls id ([(Call.logsDir, plainEnv), (Call.configDir, plainEnv)].take k)
          (init plainEnv)).2.resolved = none ∧
        ∀ c env, ([(Call.logsDir, plainEnv), (Call.configDir, plainEnv)].drop k).head? =
            some (c, env) → ∃ r,
          (resolve id env (runCalls id ([(Call.logsDir, plainEnv), (Call.configDir, plainEnv)].take k)
            (init plainEnv)).2).1 = .ok r ∧
          (runCalls id [(Call.logsDir, plainEnv), (Call.configDir, plainEnv)]
              (init plainEnv)).1.drop k =
            ([(Call.logsDir, plainEnv), (Call.configDir, plainEnv)].drop k).map
              (fun c => c.1.answer id (.ok r)) ∧
          (runCalls id [(Call.logsDir, plainEnv), (Call.configDir, plainEnv)]
            (init plainEnv)).2.resolved = some r :=
  ⟨rfl, by decide, runCalls_fresh rfl (by decide)⟩

/-- What one call keeps of the package variables: `origHome`, and the test directory once
`testFallbackOnce` has run. -/
theorem apply_keeps {c : Call} {d : GoString} (hd : s.testFallbackDir = some d) :
    (c.apply clean env s).2.origHome = s.origHome ∧
      (c.apply clean env s).2.testFallbackDir = some d := by
  by_cases hc : c = .reset
  · subst hc; exact ⟨rfl, hd⟩
  · rw [apply_eq hc]
    exact ⟨resolve_state.1, resolve_testFallbackDir hd⟩

/-- What a run keeps of the package variables, `Reset`s included. -/
theorem runCalls_keeps {d : GoString} :
    ∀ {calls : List (Call × Env)} {s : State}, s.testFallbackDir = some d →
      (runCalls clean calls s).2.origHome = s.origHome ∧
        (runCalls clean calls s).2.testFallbackDir = some d
  | [], _, hd => ⟨rfl, hd⟩
  | (c, env) :: calls, s, hd => by
    obtain ⟨ho, hd'⟩ := @apply_keeps clean env s c d hd
    obtain ⟨ho', hd''⟩ := @runCalls_keeps d calls _ hd'
    exact ⟨ho'.trans ho, hd''⟩

/-- **One temporary directory per test binary.**  Once `testFallbackOnce` has run, its
directory `d` is final: after any run of calls, `Reset`s included, a fresh resolution in a
test binary whose `HOME` is the one `init` saw reads the layout under `d`, or the
resolution order when `d` could not be made; `os.MkdirTemp` is not asked again. -/
theorem resolve_after_run {d : GoString} {calls : List (Call × Env)}
    (hd : s.testFallbackDir = some d) (ht : env.testing = true)
    (hh : env.userHomeDir = .ok s.origHome) (hs : (runCalls clean calls s).2.resolved = none) :
    (resolve clean env (runCalls clean calls s).2).1 =
      .ok (if d = [] then normalPaths clean env s.origHome else fallbackPaths clean d) := by
  obtain ⟨ho, hd'⟩ := @runCalls_keeps clean d calls s hd
  rw [resolve_fresh hs hh]
  simp only [ho, hd', Option.getD_some, ht, true_and, ne_eq, ite_not]

/-- A test binary whose directory `/tmp/erg-test-paths-1` is made, after a call and a
`Reset`. -/
def madeDirState : State := ⟨none, lit "/home/u", some (lit "/tmp/erg-test-paths-1")⟩

theorem resolve_after_run_reset :
    madeDirState.testFallbackDir = some (lit "/tmp/erg-test-paths-1") ∧
      testEnv.testing = true ∧ testEnv.userHomeDir = .ok madeDirState.origHome ∧
      (runCalls id [(Call.configDir, testEnv), (Call.reset, testEnv)] madeDirState).2.resolved =
        none ∧
      (resolve id testEnv
          (runCalls id [(Call.configDir, testEnv), (Call.reset, testEnv)] madeDirState).2).1 =
        .ok (if lit "/tmp/erg-test-paths-1" = [] then normalPaths id testEnv madeDirState.origHome
          else fallbackPaths id (lit "/tmp/erg-test-paths-1")) :=
  ⟨rfl, rfl, rfl, rfl, resolve_after_run rfl rfl rfl rfl⟩
end Runs

end Paths

end Erg
