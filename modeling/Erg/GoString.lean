import Mathlib.Data.List.DropRight
import Mathlib.Data.List.Chain

/-! # Go strings, and the `strings` functions the providers call

A Go `string` is a sequence of bytes; nothing makes it valid UTF-8, and the issue
titles, tag names and GIDs the providers handle are whatever the tracker sent.  So a
string of the model is a `List UInt8` (`GoString`), and the literals of the source
enter through `lit`.

The providers call four functions of Go's `strings` package: `ToLower`, `EqualFold`,
`Trim` and `TrimRight`.  The two trims, with the one-byte cutset `"-"` the source
passes, are byte loops and are modelled as such.  `ToLower` and `EqualFold` start with
an ASCII loop, modelled byte for byte; once they meet a byte `≥ 0x80` they need
Unicode's case tables, and what they return from there is a parameter of the model
(`UnicodeCase`).  Every theorem of the project holds for every such parameter, so in
particular for the tables Go ships.
-/
namespace Erg

/-- A Go `string`: a sequence of bytes, not necessarily valid UTF-8. -/
abbrev GoString := List UInt8

/-- The bytes of an ASCII string literal of the source. -/
def lit (s : String) : GoString := s.toList.map Char.toUInt8

/-- The byte `'-'`. -/
def dash : UInt8 := 0x2D

/-- What `strings.ToLower` and `strings.EqualFold` compute once a byte `≥ 0x80`
(`utf8.RuneSelf`) appears: that part of each function reads Unicode's case tables,
which the model leaves as a parameter. -/
structure UnicodeCase where
  /-- `strings.Map(unicode.ToLower, s)`, what `strings.ToLower(s)` returns when `s` is
  not all ASCII. -/
  mapToLower : GoString → GoString
  /-- The `hasUnicode` part of `strings.EqualFold(s, t)`, given the two remainders that
  start at the first position where either string has a byte `≥ 0x80`. -/
  equalFoldUnicode : GoString → GoString → Bool

/-- Case tables under which no string with a byte `≥ 0x80` changes case, and two such
strings fold together only when equal.  On ASCII input the tables are never read, so
this is all the model needs to be evaluated there. -/
def UnicodeCase.identity : UnicodeCase := ⟨id, fun s t => decide (s = t)⟩

namespace Strings

/-- `'A' <= c && c <= 'Z'`. -/
def isUpper (c : UInt8) : Bool := 0x41 ≤ c && c ≤ 0x5A

/-- `c += 'a' - 'A'` on an upper-case ASCII letter, and nothing on any other byte. -/
def lowerByte (c : UInt8) : UInt8 := if isUpper c then c + 0x20 else c

/-- `strings.ToLower`.  An all-ASCII string has its upper-case letters lowered (the
source returns `s` itself when it has none, which is the same bytes); any other string
goes through `strings.Map(unicode.ToLower, s)`. -/
def toLower (uc : UnicodeCase) (s : GoString) : GoString :=
  if s.all (· < 0x80) then s.map lowerByte else uc.mapToLower s

/-- The ASCII loop's test for two different bytes: after `if tr < sr { tr, sr = sr, tr }`,
`'A' <= sr && sr <= 'Z' && tr == sr+'a'-'A'`. -/
def foldsASCII (sr tr : UInt8) : Bool :=
  if tr < sr then isUpper tr && sr = tr + 0x20 else isUpper sr && tr = sr + 0x20

/-- `strings.EqualFold`.  The ASCII loop compares byte by byte, equal bytes or the two
cases of one letter passing; once `sr|tr >= utf8.RuneSelf` the remainders go to the
Unicode loop; when either string runs out, the answer is `len(s) == len(t)`. -/
def equalFold (uc : UnicodeCase) : GoString → GoString → Bool
  | [], t => t.isEmpty
  | _ :: _, [] => false
  | sr :: s, tr :: t =>
    if 0x80 ≤ sr || 0x80 ≤ tr then uc.equalFoldUnicode (sr :: s) (tr :: t)
    else if tr = sr then equalFold uc s t
    else if foldsASCII sr tr then equalFold uc s t
    else false

/-- `strings.Trim(s, cutset)` for a one-byte ASCII cutset: `trimLeftByte`, then
`trimRightByte`. -/
def trim (s : GoString) (cutset : UInt8) : GoString :=
  (s.dropWhile (· = cutset)).rdropWhile (· = cutset)

/-- `strings.TrimRight(s, cutset)` for a one-byte ASCII cutset. -/
def trimRight (s : GoString) (cutset : UInt8) : GoString := s.rdropWhile (· = cutset)

/-! ## The ASCII paths -/

theorem toLower_of_ascii (uc : UnicodeCase) {s : GoString} (h : ∀ c ∈ s, c < 0x80) :
    toLower uc s = s.map lowerByte :=
  if_pos (List.all_eq_true.mpr fun c hc => decide_eq_true (h c hc))

end Strings

end Erg
