import Erg.GoString

/-! # The `cmd` package's own helpers

Besides handing control to cobra, the `cmd` package does three things of its own: it asks
the user for a yes/no confirmation (`confirm`), it turns the `--debug` and `--quiet` flags
into the logger's debug switch (`initConfig`), and it renders the `--version` text from the
build information (`versionTemplate`).

`confirm` prints its prompt, reads one line with `bufio.Reader.ReadString('\n')`, and
accepts when that line, trimmed by `strings.TrimSpace` and lowered by `strings.ToLower`, is
`y` or `yes`.  Both `strings` functions have an ASCII fast path, modelled byte for byte, and
a Unicode fallback that reads Unicode's tables, which the model leaves as parameters
(`UnicodeCase`, `UnicodeSpace`).  The results:

* the answer depends on the first line only, and an input that ends before any newline is a
  no, whatever it holds (`confirm_line`, `confirm_eof`): a `y` followed by end of input,
  with no Enter, declines;
* on an ASCII line, the answer is yes exactly when the line is `y` or `yes`, in any mix of
  cases, between ASCII blanks (`confirm_iff_saysYes`), whatever the Unicode tables.
-/
namespace Erg
namespace Cmd

/-! ## Reading a line -/

/-- What `bufio.NewReader(input).ReadString(delim)` returns, with `err != nil` as a
`Bool`: the bytes up to and including the first `delim` and no error, or, when the input
ends first (`io.EOF`, or the reader's own error), everything read and an error.  The input
is the bytes the reader delivers before it ends; how it ends makes no difference. -/
def readString (delim : UInt8) : GoString → GoString × Bool
  | [] => ([], true)
  | c :: rest =>
    if c = delim then ([c], false)
    else
      let r := readString delim rest
      (c :: r.1, r.2)

section
variable {delim : UInt8}

theorem readString_of_not_mem : ∀ {input : GoString}, delim ∉ input →
    readString delim input = (input, true)
  | [], _ => rfl
  | c :: rest, h => by
    have hc : ¬ c = delim := fun e => h (e ▸ List.mem_cons_self c rest)
    simp only [readString, if_neg hc, readString_of_not_mem (List.not_mem_of_not_mem_cons h)]

theorem readString_append {rest : GoString} : ∀ {line : GoString}, delim ∉ line →
    readString delim (line ++ delim :: rest) = (line ++ [delim], false)
  | [], _ => by simp [readString]
  | c :: line, h => by
    have hc : ¬ c = delim := fun e => h (e ▸ List.mem_cons_self c line)
    rw [List.cons_append, readString, if_neg hc,
      readString_append (List.not_mem_of_not_mem_cons h)]
    rfl

end

/-! ## `strings.TrimSpace` -/

/-- Go's `asciiSpace` table: `'\t'`, `'\n'`, `'\v'`, `'\f'`, `'\r'` and `' '`. -/
def asciiSpace (c : UInt8) : Bool :=
  c = 0x09 || c = 0x0A || c = 0x0B || c = 0x0C || c = 0x0D || c = 0x20

/-- What `strings.TrimSpace` computes once a byte `≥ 0x80` (`utf8.RuneSelf`) appears: it
then calls the Unicode-aware trims, which the model leaves as parameters. -/
structure UnicodeSpace where
  /-- `strings.TrimFunc(s, unicode.IsSpace)`. -/
  trimFunc : GoString → GoString
  /-- `strings.TrimRightFunc(s, unicode.IsSpace)`. -/
  trimRightFunc : GoString → GoString

/-- `strings.TrimSpace`.  The first loop skips leading ASCII spaces and hands the rest to
`TrimFunc` if it meets a byte `≥ 0x80`; the second skips trailing ASCII spaces and hands
what is left to `TrimRightFunc` if it meets one. -/
def trimSpace (us : UnicodeSpace) (s : GoString) : GoString :=
  match s.dropWhile asciiSpace with
  | [] => []
  | c :: rest =>
    if 0x80 ≤ c then us.trimFunc (c :: rest)
    else
      let r := (c :: rest).rdropWhile asciiSpace
      match r.getLast? with
      | some d => if 0x80 ≤ d then us.trimRightFunc r else r
      | none => r

section
variable {p : UInt8 → Bool}

theorem mem_of_mem_trim {s : GoString} {c : UInt8} (h : c ∈ (s.dropWhile p).rdropWhile p) :
    c ∈ s :=
  (List.dropWhile_sublist p).subset ((List.rdropWhile_prefix _ _).subset h)

/-- Trimming drops a trailing byte the test accepts. -/
theorem trim_concat {s : GoString} {x : UInt8} (hx : p x) :
    ((s ++ [x]).dropWhile p).rdropWhile p = (s.dropWhile p).rdropWhile p := by
  rw [List.dropWhile_append]
  split
  · next h => rw [List.isEmpty_iff.mp h, List.dropWhile_cons_of_pos hx]; rfl
  · exact List.rdropWhile_concat_pos _ _ _ hx

theorem rdropWhile_append_of_all {w suf : GoString} (hsuf : ∀ c ∈ suf, p c)
    (hw : ∀ c ∈ w, ¬ p c) : (w ++ suf).rdropWhile p = w := by
  rw [List.rdropWhile, List.reverse_append,
    List.dropWhile_append_of_pos fun c hc => hsuf c (List.mem_reverse.mp hc)]
  cases h : w.reverse with
  | nil => rw [List.reverse_eq_nil_iff.mp h]; rfl
  | cons b v =>
    have hb : b ∈ w := List.mem_reverse.mp (h ▸ List.mem_cons_self b v)
    rw [List.dropWhile_cons_of_neg (hw b hb), ← h, List.reverse_reverse]

/-- A word with no byte the test accepts, between runs of such bytes, is what trimming
leaves. -/
theorem trim_eq_of_split {pre w suf : GoString} (hpre : ∀ c ∈ pre, p c)
    (hsuf : ∀ c ∈ suf, p c) (hw : ∀ c ∈ w, ¬ p c) :
    ((pre ++ w ++ suf).dropWhile p).rdropWhile p = w := by
  rw [List.append_assoc, List.dropWhile_append_of_pos hpre]
  cases w with
  | nil => rw [List.nil_append, List.dropWhile_eq_nil_iff.mpr hsuf]; rfl
  | cons a v =>
    rw [List.cons_append, List.dropWhile_cons_of_neg (hw a (List.mem_cons_self a v)),
      ← List.cons_append, rdropWhile_append_of_all hsuf hw]

/-- Every string is what trimming leaves, between what the two loops skip. -/
theorem split_trim (s : GoString) :
    s = s.takeWhile p ++ (s.dropWhile p).rdropWhile p ++ (s.dropWhile p).rtakeWhile p := by
  rw [List.append_assoc, List.rdropWhile, List.rtakeWhile, ← List.reverse_append,
    List.takeWhile_append_dropWhile, List.reverse_reverse, List.takeWhile_append_dropWhile]

end

/-- On an ASCII string, `strings.TrimSpace` is its two byte loops. -/
theorem trimSpace_of_ascii (us : UnicodeSpace) {s : GoString} (h : ∀ c ∈ s, c < 0x80) :
    trimSpace us s = (s.dropWhile asciiSpace).rdropWhile asciiSpace := by
  unfold trimSpace
  split
  · next hs => rw [hs]; rfl
  · next c rest hs =>
    have hascii : ∀ b ∈ c :: rest, ¬ 0x80 ≤ b := fun b hb =>
      UInt8.not_le.mpr (h b ((List.dropWhile_sublist _).subset (hs ▸ hb)))
    rw [if_neg (hascii c (List.mem_cons_self c rest)), hs]
    dsimp only
    split
    · next d hd =>
      exact if_neg (hascii d
        ((List.rdropWhile_prefix _ _).subset (List.mem_of_getLast?_eq_some hd)))
    · rfl

/-! ## `confirm` -/

/-- `response == "y" || response == "yes"`. -/
def isYes (response : GoString) : Bool := response = lit "y" || response = lit "yes"

/-- `confirm(input, prompt)`: what it prints on standard output, and its answer. -/
def confirm (uc : UnicodeCase) (us : UnicodeSpace) (input prompt : GoString) :
    GoString × Bool :=
  let printed := prompt ++ lit " [y/N]: "
  match readString 0x0A input with
  | (_, true) => (printed, false)
  | (response, false) => (printed, isYes (Strings.toLower uc (trimSpace us response)))

section Confirm
variable {uc : UnicodeCase} {us : UnicodeSpace} {prompt : GoString}

/-- **An input that ends before a newline is a no**, whatever it holds. -/
theorem confirm_eof {input : GoString} (h : 0x0A ∉ input) :
    confirm uc us input prompt = (prompt ++ lit " [y/N]: ", false) := by
  rw [confirm, readString_of_not_mem h]

/-- The answer depends on the first line only. -/
theorem confirm_line {line rest : GoString} (h : 0x0A ∉ line) :
    confirm uc us (line ++ 0x0A :: rest) prompt =
      (prompt ++ lit " [y/N]: ", isYes (Strings.toLower uc (trimSpace us (line ++ [0x0A])))) := by
  rw [confirm, readString_append h]

/-- A line that says yes: `y` or `yes` in any mix of cases, between ASCII blanks. -/
def SaysYes (line : GoString) : Prop :=
  ∃ pre w suf, line = pre ++ w ++ suf ∧ (∀ c ∈ pre, asciiSpace c) ∧ (∀ c ∈ suf, asciiSpace c) ∧
    isYes (w.map Strings.lowerByte)

theorem lowerByte_of_asciiSpace {c : UInt8} (h : asciiSpace c) : Strings.lowerByte c = c := by
  simp only [asciiSpace, Bool.or_eq_true, decide_eq_true_eq] at h
  rcases h with (((((rfl | rfl) | rfl) | rfl) | rfl) | rfl) <;> rfl

/-- The bytes of a yes are letters. -/
theorem not_asciiSpace_of_isYes {w : GoString} (h : isYes (w.map Strings.lowerByte)) :
    ∀ c ∈ w, ¬ asciiSpace c := by
  have hletters : ∀ b ∈ lit "y" ++ lit "yes", asciiSpace b = false := by decide
  intro c hc hsp
  have hm : c ∈ w.map Strings.lowerByte := lowerByte_of_asciiSpace hsp ▸ List.mem_map_of_mem _ hc
  simp only [isYes, Bool.or_eq_true, decide_eq_true_eq] at h
  have hy : c ∈ lit "y" ++ lit "yes" := by
    rcases h with h | h <;> rw [h] at hm <;> simp [hm]
  simp [hletters c hy] at hsp

/-- **On an ASCII first line, `confirm` accepts exactly a `y` or `yes` between blanks**,
in any mix of cases, whatever the Unicode tables. -/
theorem confirm_iff_saysYes {line rest : GoString} (hascii : ∀ c ∈ line, c < 0x80)
    (h : 0x0A ∉ line) :
    (confirm uc us (line ++ 0x0A :: rest) prompt).2 = true ↔ SaysYes line := by
  have hline : ∀ c ∈ line ++ [0x0A], c < 0x80 := fun c hc =>
    (List.mem_append.mp hc).elim (hascii c) fun hn => List.mem_singleton.mp hn ▸ by decide
  rw [confirm_line h, trimSpace_of_ascii us hline, trim_concat (by decide),
    Strings.toLower_of_ascii uc fun c hc => hascii c (mem_of_mem_trim hc)]
  constructor
  · exact fun hy => ⟨_, _, _, split_trim line, fun c => List.mem_takeWhile_imp,
      fun c => List.mem_rtakeWhile_imp, hy⟩
  · rintro ⟨pre, w, suf, rfl, hpre, hsuf, hy⟩
    rwa [trim_eq_of_split hpre hsuf (not_asciiSpace_of_isYes hy)]

theorem confirm_iff_saysYes_padded :
    ((∀ c ∈ lit " Yes\t", c < 0x80) ∧ (0x0A : UInt8) ∉ lit " Yes\t") ∧
      ((confirm UnicodeCase.identity ⟨id, id⟩ (lit " Yes\t" ++ 0x0A :: lit "n") (lit "Go?")).2 =
        true ↔ SaysYes (lit " Yes\t")) :=
  ⟨⟨by decide, by decide⟩, confirm_iff_saysYes (by decide) (by decide)⟩

end Confirm

/-! ## Flags and version -/

/-- The package variables: the two logging flags and the build information. -/
structure Vars where
  /-- `--debug`. -/
  debugMode : Bool
  /-- `--quiet`, `-q`. -/
  quietMode : Bool
  /-- The build information `SetVersionInfo` stores, from the linker flags. -/
  version : GoString
  commit : GoString
  date : GoString
deriving DecidableEq, Repr

/-- The variables once the package's `init` has registered the flags: `--debug` on,
`--quiet` off, and no build information yet. -/
def init : Vars :=
  { debugMode := true, quietMode := false, version := [], commit := [], date := [] }

/-- `SetVersionInfo`. -/
def setVersionInfo (v c d : GoString) (s : Vars) : Vars :=
  { s with version := v, commit := c, date := d }

/-- `initConfig`: the logger's debug switch after the call, from its value `debug`
before. -/
def initConfig (s : Vars) (debug : Bool) : Bool :=
  if s.quietMode then false else if s.debugMode then true else debug

/-- `versionTemplate`: the commit and build date are shown when the commit is known. -/
def versionTemplate (s : Vars) : GoString :=
  if s.commit ≠ lit "none" ∧ s.commit ≠ [] then
    lit "plural-agent " ++ s.version ++ lit "\n  commit: " ++ s.commit ++ lit "\n  built:  " ++
      s.date ++ lit "\n"
  else lit "plural-agent " ++ s.version ++ lit "\n"

end Cmd
end Erg
