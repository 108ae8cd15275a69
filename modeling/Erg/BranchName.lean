import Erg.Wire

/-! # Asana branch names

`AsanaProvider.GenerateBranchName` turns a task title into a branch name in four steps:
`strings.ToLower`, replacing every match of `[^a-z0-9]+` by `-`, `strings.Trim(·, "-")`,
and, past 40 bytes, a cut followed by `strings.TrimRight(·, "-")`; an empty slug falls
back to the task's GID.

What the pipeline computes is simplest said on the words of the lowered title: its
maximal runs of `[a-z0-9]` bytes (`runs`).  The slug is the words joined by single
dashes (`joinRuns`), cut to 40 bytes, with a dash the cut may leave at the end removed
(`generateBranchName_eq_runs`).  From that description the branch-name safety the spec
asks for follows (`SlugShape`): a non-empty slug is made of `[a-z0-9]` words separated by
single dashes, with no dash at either end, at most 40 bytes long.  So a branch name ends
in a dash only through the GID fallback, when the GID is empty or itself ends in one
(`generateBranchName_last_dash_iff`), and a slug is its own slug
(`slugify_fixed_points`).

The regular expression works on runes, and Go decodes a byte that starts no valid
UTF-8 sequence as `U+FFFD`, which the class `[^a-z0-9]` matches.  A byte of `[a-z0-9]`
is always a one-byte rune, never part of another encoding, so the matched runs are
exactly the maximal runs of bytes outside `[a-z0-9]`; the model replaces those
(`slugifyReplace`).
-/
namespace Erg

/-- A byte of the class `[a-z0-9]`. -/
def isSlugByte (b : UInt8) : Bool := (0x61 ≤ b && b ≤ 0x7A) || (0x30 ≤ b && b ≤ 0x39)

theorem isSlugByte_dash : isSlugByte dash = false := rfl

theorem ne_dash_of_isSlugByte {b : UInt8} (h : isSlugByte b = true) : b ≠ dash := by
  rintro rfl
  exact absurd h (by decide)

/-! ## The source -/

/-- The regular-expression replacement, one byte at a time: `inRun` says that the byte
before was already replaced, so a byte outside `[a-z0-9]` is dropped into the same dash. -/
def replaceRuns : Bool → GoString → GoString
  | _, [] => []
  | inRun, b :: s =>
    if isSlugByte b then b :: replaceRuns false s
    else if inRun then replaceRuns true s
    else dash :: replaceRuns true s

/-- `slugifyRegex.ReplaceAllString(s, "-")`, for `slugifyRegex = [^a-z0-9]+`. -/
def slugifyReplace (s : GoString) : GoString := replaceRuns false s

/-- `const maxSlugLen = 40`. -/
def maxSlugLen : Nat := 40

namespace AsanaProvider

/-- The source's `slug` variable: the title lowered, every run outside `[a-z0-9]` made
one dash, dashes trimmed from both ends, and a slug over 40 bytes cut and trimmed on the
right again. -/
def slugify (uc : UnicodeCase) (title : GoString) : GoString :=
  let slug := Strings.toLower uc title
  let slug := slugifyReplace slug
  let slug := Strings.trim slug dash
  if slug.length > maxSlugLen then Strings.trimRight (slug.take maxSlugLen) dash else slug

/-- `AsanaProvider.GenerateBranchName`: `"task-"` and the slug of the title, or the
task's GID when the slug is empty. -/
def generateBranchName (uc : UnicodeCase) (issue : Issue) : GoString :=
  let slug := slugify uc issue.title
  if slug = [] then lit "task-" ++ issue.id else lit "task-" ++ slug

end AsanaProvider

/-! ## Words of a title -/

/-- The maximal runs of `[a-z0-9]` bytes of `s`, in order. -/
def runs (s : GoString) : List GoString :=
  (s.splitOnP fun b => !isSlugByte b).filter fun w => !w.isEmpty

/-- The runs of `s` joined by single dashes. -/
def joinRuns (s : GoString) : GoString := [dash].intercalate (runs s)

/-- The slug `GenerateBranchName` makes, read off the runs: the first `min 40 |c|` bytes
of `c = joinRuns s`, with trailing dashes removed. -/
def slugOfRuns (s : GoString) : GoString :=
  ((joinRuns s).take (min maxSlugLen (joinRuns s).length)).rdropWhile (· = dash)

/-- What makes a slug safe in a branch name: bytes of `[a-z0-9-]`, no two dashes in a
row, no dash at either end, and at least one byte. -/
structure SlugShape (s : GoString) : Prop where
  ne_nil : s ≠ []
  bytes : ∀ b ∈ s, isSlugByte b = true ∨ b = dash
  single_dash : s.Chain' fun a b => a = dash → b ≠ dash
  head_ne_dash : s.head? ≠ some dash
  last_ne_dash : s.getLast? ≠ some dash

/-! ## Words and their join -/

/-- A word: a non-empty run of `[a-z0-9]` bytes. -/
def IsWord (w : GoString) : Prop := w ≠ [] ∧ ∀ b ∈ w, isSlugByte b = true

theorem mem_splitOnP_of_slug {s w : GoString} (h : w ∈ s.splitOnP fun b => !isSlugByte b) :
    ∀ b ∈ w, isSlugByte b = true := by
  induction s generalizing w with
  | nil => simp_all
  | cons c s ih =>
    by_cases hc : isSlugByte c
    · obtain ⟨g, gs, hgs⟩ := List.exists_cons_of_ne_nil (List.splitOnP_ne_nil _ s)
      rw [List.splitOnP_cons, if_neg (by simp [hc]), hgs] at h
      simp only [List.modifyHead, List.mem_cons] at h
      rcases h with rfl | h
      · exact List.forall_mem_cons.mpr ⟨hc, ih (by simp [hgs])⟩
      · exact ih (by simp [hgs, h])
    · simp only [List.splitOnP_cons, hc, Bool.not_false, if_true, List.mem_cons] at h
      rcases h with rfl | h
      · simp
      · exact ih h

theorem isWord_of_mem_runs {s w : GoString} (h : w ∈ runs s) : IsWord w := by
  obtain ⟨hw, hne⟩ := List.mem_filter.mp h
  exact ⟨by simpa using hne, mem_splitOnP_of_slug hw⟩

@[simp] theorem runs_nil : runs [] = [] := rfl

theorem runs_cons_sep {b : UInt8} (hb : isSlugByte b = false) (s : GoString) :
    runs (b :: s) = runs s := by
  simp [runs, List.splitOnP_cons, hb]

/-- A `[a-z0-9]` byte joins the word `s` starts with, if any, and starts its own
otherwise. -/
theorem runs_cons_slug {b : UInt8} (hb : isSlugByte b = true) (s : GoString) :
    runs (b :: s) = if s.head?.any isSlugByte then (runs s).modifyHead (b :: ·)
      else [b] :: runs s := by
  obtain ⟨g, gs, hgs⟩ := List.exists_cons_of_ne_nil (List.splitOnP_ne_nil
    (fun b => !isSlugByte b) s)
  have hb' : (!isSlugByte b) = false := by simp [hb]
  rcases s with _ | ⟨c, s⟩
  · simp [runs, List.splitOnP_cons, hb']
  · by_cases hc : isSlugByte c
    · obtain ⟨g', gs', hgs'⟩ := List.exists_cons_of_ne_nil (List.splitOnP_ne_nil
        (fun b => !isSlugByte b) s)
      simp [runs, List.splitOnP_cons, hb, hc, hgs']
    · simp [runs, List.splitOnP_cons, hb, hc]

theorem intercalate_dash_cons (w : GoString) (ws : List GoString) :
    [dash].intercalate (w :: ws) = w ++ (if ws = [] then [] else dash :: [dash].intercalate ws) := by
  rcases ws with _ | ⟨w', ws⟩ <;> simp [List.intercalate, List.intersperse]

theorem chain'_of_word {w : GoString} (hw : IsWord w) : w.Chain' fun a b => a = dash → b ≠ dash :=
  List.Pairwise.chain' <| List.pairwise_of_forall_mem_list fun a ha _ _ had =>
    absurd had (ne_dash_of_isSlugByte (hw.2 a ha))

/-- A word alone has the shape of a slug. -/
theorem IsWord.slugShape {w : GoString} (hw : IsWord w) : SlugShape w := by
  obtain ⟨x, xs, rfl⟩ := List.exists_cons_of_ne_nil hw.1
  refine ⟨List.cons_ne_nil x xs, fun b hb => .inl (hw.2 b hb), chain'_of_word hw, ?_, ?_⟩
  · simpa using ne_dash_of_isSlugByte (hw.2 x (List.mem_cons_self x xs))
  · rw [List.getLast?_eq_getLast _ (List.cons_ne_nil x xs)]
    exact fun h => ne_dash_of_isSlugByte (hw.2 _ (List.getLast_mem _)) (Option.some_inj.mp h)

/-- A word, a dash and a slug have the shape of a slug. -/
theorem SlugShape.word_dash {w j : GoString} (hw : IsWord w) (hj : SlugShape j) :
    SlugShape (w ++ dash :: j) := by
  have hs := hw.slugShape
  refine ⟨by simp, ?_, ?_, ?_, ?_⟩
  · intro b hb
    rcases List.mem_append.mp hb with hb | hb
    · exact .inl (hw.2 b hb)
    · rcases List.mem_cons.mp hb with rfl | hb
      · exact .inr rfl
      · exact hj.bytes b hb
  · refine List.chain'_append.mpr ⟨hs.single_dash, List.chain'_cons'.mpr ⟨?_, hj.single_dash⟩, ?_⟩
    · exact fun y hy _ hyd => hj.head_ne_dash (hyd ▸ hy)
    · exact fun a ha _ _ had => absurd (had ▸ ha) hs.last_ne_dash
  · rw [List.head?_append_of_ne_nil _ hs.ne_nil]
    exact hs.head_ne_dash
  · obtain ⟨y, ys, hj'⟩ := List.exists_cons_of_ne_nil hj.ne_nil
    rw [List.getLast?_append_of_ne_nil _ (List.cons_ne_nil _ _), hj', List.getLast?_cons_cons,
      ← hj']
    exact hj.last_ne_dash

/-- **Words joined by single dashes have the shape of a slug.** -/
theorem slugShape_intercalate :
    ∀ {ws : List GoString}, (∀ w ∈ ws, IsWord w) → ws ≠ [] → SlugShape ([dash].intercalate ws)
  | [], _, h => absurd rfl h
  | [w], hws, _ => by
    simpa [List.intercalate] using (hws w (List.mem_singleton_self w)).slugShape
  | w :: w' :: ws, hws, _ => by
    rw [intercalate_dash_cons, if_neg (List.cons_ne_nil _ _)]
    exact SlugShape.word_dash (hws w (List.mem_cons_self _ _))
      (slugShape_intercalate (fun v hv => hws v (List.mem_cons_of_mem _ hv)) (List.cons_ne_nil _ _))

theorem slugShape_joinRuns {s : GoString} (h : runs s ≠ []) : SlugShape (joinRuns s) :=
  slugShape_intercalate (fun _ hw => isWord_of_mem_runs hw) h

theorem joinRuns_eq_nil_iff {s : GoString} : joinRuns s = [] ↔ runs s = [] :=
  ⟨fun hj => by_contra fun h => (slugShape_joinRuns h).ne_nil hj,
    fun h => by rw [joinRuns, h]; rfl⟩

theorem rdropWhile_of_slugShape {s : GoString} (h : SlugShape s) :
    s.rdropWhile (· = dash) = s :=
  List.rdropWhile_eq_self_iff.mpr fun hl hd =>
    h.last_ne_dash (by rw [List.getLast?_eq_getLast _ hl, of_decide_eq_true hd])

theorem runs_cons_ne_nil {b : UInt8} (hb : isSlugByte b = true) : ∀ s, runs (b :: s) ≠ []
  | [] => by simp [runs_cons_slug hb]
  | c :: s => by
    rw [runs_cons_slug hb]
    split
    · rename_i hc
      obtain ⟨w, ws, hw⟩ := List.exists_cons_of_ne_nil (runs_cons_ne_nil (by simpa using hc) s)
      simp [hw]
    · exact List.cons_ne_nil _ _

theorem joinRuns_cons_sep {b : UInt8} (hb : isSlugByte b = false) (s : GoString) :
    joinRuns (b :: s) = joinRuns s := by
  rw [joinRuns, runs_cons_sep hb]; rfl

theorem joinRuns_cons_slug_slug {b c : UInt8} (hb : isSlugByte b = true)
    (hc : isSlugByte c = true) (s : GoString) :
    joinRuns (b :: c :: s) = b :: joinRuns (c :: s) := by
  obtain ⟨w, ws, hw⟩ := List.exists_cons_of_ne_nil (runs_cons_ne_nil hc s)
  simp [joinRuns, runs_cons_slug hb, hc, hw, intercalate_dash_cons]

theorem joinRuns_cons_slug_sep {b : UInt8} (hb : isSlugByte b = true) {s : GoString}
    (hs : s.head?.any isSlugByte = false) :
    joinRuns (b :: s) = b :: if runs s = [] then [] else dash :: joinRuns s := by
  simp [joinRuns, runs_cons_slug hb, hs, intercalate_dash_cons]

/-! ## What the pipeline computes -/

/-- The dash `replaceRuns` writes before the first word: one, when the string starts
outside a word and no run is open. -/
def leadDash (inRun : Bool) (s : GoString) : GoString :=
  if !inRun && s.head?.any (fun b => !isSlugByte b) then [dash] else []

/-- **The replacement is the join of the words, between at most one dash on each
side.**  A dash after the last word appears only when there is a word. -/
theorem replaceRuns_eq (s : GoString) : ∀ inRun : Bool, ∃ e : GoString,
    (e = [] ∨ e = [dash]) ∧ (runs s = [] → e = []) ∧
      replaceRuns inRun s = leadDash inRun s ++ joinRuns s ++ e := by
  induction s with
  | nil => exact fun inRun => ⟨[], .inl rfl, fun _ => rfl, by cases inRun <;> rfl⟩
  | cons b s ih =>
    intro inRun
    by_cases hb : isSlugByte b
    · obtain ⟨e, he, hen, hr⟩ := ih false
      have hrun : runs (b :: s) ≠ [] := runs_cons_ne_nil hb s
      rw [show replaceRuns inRun (b :: s) = b :: replaceRuns false s by simp [replaceRuns, hb],
        show leadDash inRun (b :: s) = [] by simp [leadDash, hb], hr]
      rcases s with _ | ⟨c, s⟩
      · rw [hen rfl]
        exact ⟨[], .inl rfl, fun _ => rfl, by simp [leadDash, joinRuns, runs_cons_slug hb]; rfl⟩
      · by_cases hc : isSlugByte c
        · exact ⟨e, he, fun h => absurd h hrun, by
            simp [leadDash, hc, joinRuns_cons_slug_slug hb hc]⟩
        · have hsep : (c :: s).head?.any isSlugByte = false := by simpa using hc
          rw [joinRuns_cons_slug_sep hb hsep]
          by_cases hw : runs (c :: s) = []
          · rw [hen hw, joinRuns_eq_nil_iff.mpr hw]
            exact ⟨[dash], .inr rfl, fun h => absurd h hrun, by simp [leadDash, hc, hw]⟩
          · exact ⟨e, he, fun h => absurd h hrun, by simp [leadDash, hc, hw]⟩
    · replace hb : isSlugByte b = false := by simpa using hb
      obtain ⟨e, he, hen, hr⟩ := ih true
      refine ⟨e, he, by rwa [runs_cons_sep hb], ?_⟩
      rw [joinRuns_cons_sep hb]
      cases inRun <;> simp [replaceRuns, hb, hr, leadDash]

/-- `strings.Trim(·, "-")` leaves exactly the words joined by dashes. -/
theorem trim_slugifyReplace (s : GoString) :
    Strings.trim (slugifyReplace s) dash = joinRuns s := by
  obtain ⟨e, he, hen, hr⟩ := replaceRuns_eq s false
  have hlead : ∀ a ∈ leadDash false s, decide (a = dash) = true := by
    unfold leadDash; split <;> simp
  rw [Strings.trim, slugifyReplace, hr, List.append_assoc,
    List.dropWhile_append_of_pos hlead]
  by_cases h : runs s = []
  · rw [joinRuns_eq_nil_iff.mpr h, hen h]; rfl
  · have hS := slugShape_joinRuns h
    obtain ⟨x, xs, hx⟩ := List.exists_cons_of_ne_nil hS.ne_nil
    have hxd : ¬ decide (x = dash) = true := by
      simpa [hx] using hS.head_ne_dash
    rw [hx, List.cons_append, @List.dropWhile_cons_of_neg _ (fun a => decide (a = dash)) _ _ hxd, ← List.cons_append, ← hx]
    rcases he with rfl | rfl
    · rw [List.append_nil, rdropWhile_of_slugShape hS]
    · rw [List.rdropWhile_concat_pos _ _ _ (by simp), rdropWhile_of_slugShape hS]

/-- The length cap, on a joined string: a cut at 40 bytes and a right trim, or nothing. -/
theorem cap_joinRuns (s : GoString) :
    (if (joinRuns s).length > maxSlugLen then
        Strings.trimRight ((joinRuns s).take maxSlugLen) dash else joinRuns s) =
      slugOfRuns s := by
  unfold slugOfRuns
  split
  · rw [min_eq_left (by omega)]; rfl
  · rw [min_eq_right (by omega), List.take_length]
    by_cases h : runs s = []
    · rw [joinRuns_eq_nil_iff.mpr h]; rfl
    · exact (rdropWhile_of_slugShape (slugShape_joinRuns h)).symm

theorem slugify_eq (uc : UnicodeCase) (title : GoString) :
    AsanaProvider.slugify uc title = slugOfRuns (Strings.toLower uc title) := by
  simp only [AsanaProvider.slugify, trim_slugifyReplace]
  exact cap_joinRuns _

/-! ## The slug has the shape the spec asks for -/

/-- A non-empty cut of a slug, with trailing dashes removed, is again a slug. -/
theorem SlugShape.cut {s : GoString} (h : SlugShape s) {n : Nat} (hn : 0 < n) :
    SlugShape ((s.take n).rdropWhile (· = dash)) := by
  set t := s.take n
  have hts : t <+: s := List.take_prefix n s
  have hrt : t.rdropWhile (· = dash) <+: t := List.rdropWhile_prefix _ t
  have hth : t.head? = s.head? := by rw [List.head?_take, if_neg (by omega)]
  have hne : t.rdropWhile (· = dash) ≠ [] := fun hr => by
    obtain ⟨x, xs, hx⟩ := List.exists_cons_of_ne_nil h.ne_nil
    have hx0 : x ∈ t := List.mem_of_mem_head? (by rw [hth, hx]; rfl)
    exact h.head_ne_dash (by
      rw [hx, of_decide_eq_true (List.rdropWhile_eq_nil_iff.mp hr x hx0)]; rfl)
  refine ⟨hne, fun b hb => h.bytes b ((hrt.trans hts).subset hb),
    h.single_dash.prefix (hrt.trans hts), ?_, ?_⟩
  · rw [List.head?_eq_head hne, hrt.head hne, ← List.head?_eq_head, hth]
    exact h.head_ne_dash
  · rw [List.getLast?_eq_getLast _ hne]
    exact fun he => List.rdropWhile_last_not _ t hne (by simpa using Option.some_inj.mp he)

theorem slugOfRuns_eq_nil_iff {s : GoString} : slugOfRuns s = [] ↔ runs s = [] := by
  refine ⟨fun h => by_contra fun hr => ?_, fun h => by
    rw [slugOfRuns, joinRuns_eq_nil_iff.mpr h]; rfl⟩
  have hS := slugShape_joinRuns hr
  have hlen : 0 < (joinRuns s).length := List.length_pos.mpr hS.ne_nil
  exact (hS.cut (n := min maxSlugLen (joinRuns s).length)
    (lt_min (by decide) hlen)).ne_nil h

theorem slugShape_slugOfRuns {s : GoString} (h : runs s ≠ []) : SlugShape (slugOfRuns s) :=
  (slugShape_joinRuns h).cut (lt_min (by decide)
    (List.length_pos.mpr (slugShape_joinRuns h).ne_nil))

theorem slugOfRuns_prefix (s : GoString) : slugOfRuns s <+: joinRuns s :=
  (List.rdropWhile_prefix _ _).trans (List.take_prefix _ _)

theorem length_slugOfRuns_le (s : GoString) : (slugOfRuns s).length ≤ maxSlugLen :=
  calc (slugOfRuns s).length
      ≤ ((joinRuns s).take (min maxSlugLen (joinRuns s).length)).length :=
        (List.rdropWhile_prefix _ _).length_le
    _ ≤ maxSlugLen := by rw [List.length_take]; omega

/-- **The Asana branch name, said on the words of the lowered title.**  With
`t = strings.ToLower(issue.Title)`, `GenerateBranchName` is `"task-"` followed by the
GID when `t` has no `[a-z0-9]` run, and otherwise by the first `min 40 |c|` bytes of
`c = w₁-w₂-…-wₖ`, trailing dashes removed; that slug is then non-empty, made of
`[a-z0-9]` words and single dashes with none at either end, at most 40 bytes, and a
prefix of `c`. -/
theorem generateBranchName_eq_runs (uc : UnicodeCase) (issue : Issue) :
    let t := Strings.toLower uc issue.title
    AsanaProvider.generateBranchName uc issue =
        lit "task-" ++ (if runs t = [] then issue.id else slugOfRuns t) ∧
      (runs t ≠ [] →
        SlugShape (slugOfRuns t) ∧ (slugOfRuns t).length ≤ maxSlugLen ∧
          slugOfRuns t <+: joinRuns t) := by
  intro t
  refine ⟨?_, fun h => ⟨slugShape_slugOfRuns h, length_slugOfRuns_le t, slugOfRuns_prefix t⟩⟩
  simp only [AsanaProvider.generateBranchName, slugify_eq, slugOfRuns_eq_nil_iff]
  split <;> rfl


/-- **An Asana branch name ends in `-` only through the GID fallback**: exactly when the
lowered title has no `[a-z0-9]` run and the GID is empty or ends in `-`. -/
theorem generateBranchName_last_dash_iff (uc : UnicodeCase) (issue : Issue) :
    (AsanaProvider.generateBranchName uc issue).getLast? = some dash ↔
      runs (Strings.toLower uc issue.title) = [] ∧
        (issue.id = [] ∨ issue.id.getLast? = some dash) := by
  simp only [AsanaProvider.generateBranchName, slugify_eq, slugOfRuns_eq_nil_iff]
  split
  · next h =>
    have htask : (lit "task-").getLast? = some dash := rfl
    rw [List.getLast?_append, htask, and_iff_right h]
    cases hid : issue.id.getLast? with
    | none => simpa using List.getLast?_eq_none_iff.mp hid
    | some b =>
      have hne : issue.id ≠ [] := fun e => by simp [e] at hid
      simp [hne]
  · next h =>
    have hS := slugShape_slugOfRuns h
    rw [List.getLast?_append_of_ne_nil _ hS.ne_nil]
    exact iff_of_false hS.last_ne_dash fun hr => h hr.1


/-! ## Slugs are fixed points

A slug's bytes are ASCII and no upper-case letter, so lowering leaves it alone; the
replacement finds no run of two separators in it, and neither trim nor cut finds a dash
at an end.  So the slug step leaves exactly the empty string and the slugs of at most 40
bytes unchanged, which is everything it returns (`slugify_fixed_points`). -/

/-- A byte of a slug is ASCII and no upper-case letter. -/
theorem slug_byte_ascii_lower {b : UInt8} (h : isSlugByte b = true ∨ b = dash) :
    b < 0x80 ∧ Strings.isUpper b = false := by
  rcases h with h | rfl
  · simp only [isSlugByte, Bool.or_eq_true, Bool.and_eq_true, decide_eq_true_eq,
      UInt8.le_def, UInt8.toBitVec_ofNat] at h
    simp only [Strings.isUpper, Bool.and_eq_false_iff, decide_eq_false_iff_not, UInt8.le_def,
      UInt8.lt_def, UInt8.toBitVec_ofNat]
    constructor <;> bv_omega
  · decide

theorem toLower_of_slug_bytes (uc : UnicodeCase) {s : GoString}
    (h : ∀ b ∈ s, isSlugByte b = true ∨ b = dash) : Strings.toLower uc s = s := by
  rw [Strings.toLower_of_ascii uc fun b hb => (slug_byte_ascii_lower (h b hb)).1]
  exact (List.map_congr_left fun b hb =>
    if_neg (Bool.eq_false_iff.mp (slug_byte_ascii_lower (h b hb)).2)).trans (List.map_id s)

theorem replaceRuns_of_slug_bytes : ∀ {inRun : Bool} {s : GoString},
    (∀ b ∈ s, isSlugByte b = true ∨ b = dash) → s.Chain' (fun a b => a = dash → b ≠ dash) →
      (inRun = true → s.head? ≠ some dash) → replaceRuns inRun s = s
  | _, [], _, _, _ => rfl
  | inRun, b :: s, hb, hc, hh => by
    have hs : ∀ c ∈ s, isSlugByte c = true ∨ c = dash := fun c hc => hb c (.tail b hc)
    rcases hb b (List.mem_cons_self b s) with hsl | rfl
    · rw [replaceRuns, if_pos hsl, replaceRuns_of_slug_bytes hs hc.tail (by simp)]
    · have hfalse : inRun = false := by
        cases inRun
        · rfl
        · exact absurd rfl (hh rfl)
      have hnext : s.head? ≠ some dash := fun he =>
        (List.chain'_cons'.mp hc).1 dash he rfl rfl
      rw [hfalse, replaceRuns, if_neg (by rw [isSlugByte_dash]; decide), if_neg (by decide),
        replaceRuns_of_slug_bytes hs hc.tail fun _ => hnext]

theorem slugify_of_slugShape (uc : UnicodeCase) {s : GoString} (h : SlugShape s)
    (hlen : s.length ≤ maxSlugLen) : AsanaProvider.slugify uc s = s := by
  obtain ⟨x, xs, hx⟩ := List.exists_cons_of_ne_nil h.ne_nil
  have hxd : ¬ decide (x = dash) = true := by simpa [hx] using h.head_ne_dash
  have htrim : Strings.trim s dash = s := by
    rw [Strings.trim, hx, @List.dropWhile_cons_of_neg _ (fun a => decide (a = dash)) _ _ hxd, ← hx,
      rdropWhile_of_slugShape h]
  have hrep : slugifyReplace s = s :=
    replaceRuns_of_slug_bytes h.bytes h.single_dash (fun e => absurd e Bool.false_ne_true)
  simp only [AsanaProvider.slugify, toLower_of_slug_bytes uc h.bytes, hrep, htrim,
    if_neg (Nat.not_lt.mpr hlen)]

/-- **A slug is its own slug.**  The slug step of `GenerateBranchName` changes a string
exactly when it is neither empty nor a slug of at most 40 bytes; so slugifying twice is
slugifying once. -/
theorem slugify_fixed_points (uc : UnicodeCase) :
    (∀ title, AsanaProvider.slugify uc (AsanaProvider.slugify uc title) =
      AsanaProvider.slugify uc title) ∧
    ∀ s, AsanaProvider.slugify uc s = s ↔ s = [] ∨ SlugShape s ∧ s.length ≤ maxSlugLen := by
  have himage : ∀ title, AsanaProvider.slugify uc title = [] ∨
      SlugShape (AsanaProvider.slugify uc title) ∧
        (AsanaProvider.slugify uc title).length ≤ maxSlugLen := fun title => by
    rw [slugify_eq]
    by_cases hr : runs (Strings.toLower uc title) = []
    · exact .inl (slugOfRuns_eq_nil_iff.mpr hr)
    · exact .inr ⟨slugShape_slugOfRuns hr, length_slugOfRuns_le _⟩
  have hfix : ∀ s, s = [] ∨ SlugShape s ∧ s.length ≤ maxSlugLen →
      AsanaProvider.slugify uc s = s := by
    rintro s (rfl | ⟨h, hlen⟩)
    · rfl
    · exact slugify_of_slugShape uc h hlen
  exact ⟨fun title => hfix _ (himage title),
    fun s => ⟨fun h => h ▸ himage s, hfix s⟩⟩

end Erg
