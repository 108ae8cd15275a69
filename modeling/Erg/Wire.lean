import Erg.GoString

/-! # What crosses the provider boundary

The providers talk to Asana and Linear over HTTP and hand `Issue`s to the daemon.  This
module fixes the data both sides share.

*Errors.*  Every error the providers return is built by `fmt.Errorf`, and the model
keeps the call as the source writes it: its format string and its operands
(`GoError.errorf`), with the wrapped error for a trailing `%w` (`GoError.wrapf`).  Errors
that come out of the standard library (a URL that does not parse, a transport failure,
a body that is not the expected JSON) are opaque texts (`GoError.lib`).

*Replies.*  One exchange of the source is `http.NewRequestWithContext`, then
`httpClient.Do`, then a status check, then `json.NewDecoder(resp.Body).Decode`.
`Reply α` is what the world answers to one such exchange, with the body already decoded
into the struct `α` the source decodes it into.  `receive` and `checkStatus` are the
source's checks of a reply, one definition for the many call sites, each of which
passes its own error texts.
-/
namespace Erg

/-- An operand of a `fmt.Errorf` call: a string (`%s`, `%q`) or an integer (`%d`). -/
inductive FmtArg where
  | str (s : GoString)
  | int (n : Nat)
deriving DecidableEq, Repr

/-- A Go `error` as the providers build it. -/
inductive GoError where
  /-- `fmt.Errorf(format, args...)`, with no `%w` verb. -/
  | errorf (format : String) (args : List FmtArg)
  /-- `fmt.Errorf(format, args..., err)`, whose last verb is `%w`. -/
  | wrapf (format : String) (args : List FmtArg) (err : GoError)
  /-- An error returned by the standard library. -/
  | lib (msg : GoString)
deriving DecidableEq, Repr

instance instDecidableEqExcept {ε α : Type} [DecidableEq ε] [DecidableEq α] :
    DecidableEq (Except ε α)
  | .error x, .error y => decidable_of_iff (x = y) ⟨congrArg _, Except.error.inj⟩
  | .ok x, .ok y => decidable_of_iff (x = y) ⟨congrArg _, Except.ok.inj⟩
  | .error _, .ok _ => isFalse Except.noConfusion
  | .ok _, .error _ => isFalse Except.noConfusion

/-- What one exchange comes back with. -/
inductive Reply (α : Type) where
  /-- `http.NewRequestWithContext` failed: the URL does not parse. -/
  | badRequest (err : GoString)
  /-- `httpClient.Do` failed: transport error, timeout, cancelled context. -/
  | failed (err : GoString)
  /-- A response with its status code, and its body decoded into `α` or the decoder's
  error. -/
  | response (status : Nat) (body : Except GoString α)
deriving DecidableEq, Repr

namespace Reply

/-- The status code of a response, if the exchange got that far. -/
def status? {α : Type} : Reply α → Option Nat
  | .response code _ => some code
  | _ => none

/-- The body of a `200 OK` that decoded, or nothing: what `receive` turns into a result. -/
def ok? {α : Type} : Reply α → Option α
  | .response 200 (.ok a) => some a
  | _ => none

theorem ok?_eq_some {α : Type} {r : Reply α} {a : α} :
    r.ok? = some a ↔ r = .response 200 (.ok a) := by
  constructor
  · intro h
    rcases r with _ | _ | ⟨code, _ | b⟩ <;> simp only [ok?] at h
    all_goals first | cases h | (split at h <;> simp_all)
  · rintro rfl; rfl

end Reply

/-- How the source reads a reply: a request that could not be built is wrapped with
`create`, a failed transport with `send`; a status other than `200 OK` is reported with
`status`, and a body that does not decode is wrapped with `parse`. -/
def receive {α : Type} (create send status parse : String) : Reply α → Except GoError α
  | .badRequest e => .error (.wrapf create [] (.lib e))
  | .failed e => .error (.wrapf send [] (.lib e))
  | .response code body =>
    if code = 200 then body.mapError fun e => .wrapf parse [] (.lib e)
    else .error (.errorf status [.int code])

/-- How the source checks a reply whose body it does not read: as `receive`, with the
expected status `expect` and no decoding. -/
def checkStatus {α : Type} (create send status : String) (expect : Nat) :
    Reply α → Except GoError Unit
  | .badRequest e => .error (.wrapf create [] (.lib e))
  | .failed e => .error (.wrapf send [] (.lib e))
  | .response code _ => if code = expect then .ok () else .error (.errorf status [.int code])

section ToOption
variable {ε α : Type} {r : Except ε α}

theorem toOption_eq_none : r.toOption = none ↔ ∃ e, r = .error e := by
  cases r <;> simp [Except.toOption]

theorem toOption_eq_some {a : α} : r.toOption = some a ↔ r = .ok a := by
  cases r <;> simp [Except.toOption]

end ToOption

section Receive
variable {α : Type} {create send status parse : String}

/-- `receive` succeeds exactly on a `200 OK` whose body decoded. -/
theorem receive_eq_ok {r : Reply α} {a : α} :
    receive create send status parse r = .ok a ↔ r = .response 200 (.ok a) := by
  cases r with
  | badRequest e => simp [receive]
  | failed e => simp [receive]
  | response code body =>
    by_cases hc : code = 200
    · cases body <;> simp [receive, hc, Except.mapError]
    · simp [receive, hc]

theorem receive_toOption (r : Reply α) :
    (receive create send status parse r).toOption = r.ok? := by
  cases r with
  | badRequest e => rfl
  | failed e => rfl
  | response code body =>
    by_cases hc : code = 200
    · subst hc; cases body <;> rfl
    · simp [receive, hc, Reply.ok?, Except.toOption]

/-- A reply that is no `200 OK` with a decoded body makes `receive` fail. -/
theorem receive_eq_error {r : Reply α} (h : r.ok? = none) :
    ∃ e, receive create send status parse r = .error e :=
  toOption_eq_none.mp (by rw [receive_toOption, h])

theorem checkStatus_eq_ok {r : Reply α} {expect : Nat} :
    checkStatus create send status expect r = .ok () ↔ ∃ body, r = .response expect body := by
  cases r with
  | badRequest e => simp [checkStatus]
  | failed e => simp [checkStatus]
  | response code body => by_cases hc : code = expect <;> simp [checkStatus, hc]

end Receive

/-! ## `json.Marshal` of a string

The providers send request bodies through `json.Marshal`, and the tracker decodes them.
`encoding/json` escapes quotes, backslashes, control bytes, `<`, `>`, `&`, U+2028 and
U+2029, and a decoder reads each of these back as it was.  The one change that survives
is at a byte where `utf8.DecodeRune` finds no rune (`RuneError` of width 1): there the
encoder writes `\ufffd`.  `Json.roundTrip` is the string the tracker reads. -/

namespace Json

/-- `utf8.DecodeRune`'s tables (`first`, `acceptRanges`) for a first byte `b ≥ 0x80`: the
bounds of the second byte and how many bytes follow it, or `none` for a byte that starts
no rune. -/
def runeShape (b : UInt8) : Option (UInt8 × UInt8 × Nat) :=
  if b < 0xC2 then none
  else if b ≤ 0xDF then some (0x80, 0xBF, 0)
  else if b = 0xE0 then some (0xA0, 0xBF, 1)
  else if b = 0xED then some (0x80, 0x9F, 1)
  else if b ≤ 0xEF then some (0x80, 0xBF, 1)
  else if b = 0xF0 then some (0x90, 0xBF, 2)
  else if b ≤ 0xF3 then some (0x80, 0xBF, 2)
  else if b = 0xF4 then some (0x80, 0x8F, 2)
  else none

/-- A continuation byte: `locb <= c && c <= hicb`. -/
def isTail (c : UInt8) : Bool := 0x80 ≤ c && c ≤ 0xBF

/-- How many of the bytes `s` after a first byte `b ≥ 0x80` `utf8.DecodeRune` takes into
the rune, or `none` when it returns `RuneError` of width 1. -/
def runeTail? (b : UInt8) (s : GoString) : Option Nat :=
  match runeShape b, s with
  | some (lo, hi, k), c :: rest =>
    if lo ≤ c && c ≤ hi && decide (k ≤ rest.length) && (rest.take k).all isTail then
      some (k + 1)
    else none
  | _, _ => none

/-- U+FFFD in UTF-8, what a decoder reads from `\ufffd`. -/
def replacementChar : GoString := [0xEF, 0xBF, 0xBD]

/-- The encoder's loop over `s` (`appendString`) as the decoder reads its output, with
`pending` bytes of a rune already decoded still to copy. -/
def roundTripFrom : Nat → GoString → GoString
  | _, [] => []
  | k + 1, c :: s => c :: roundTripFrom k s
  | 0, b :: s =>
    if b < 0x80 then b :: roundTripFrom 0 s
    else match runeTail? b s with
      | some k => b :: roundTripFrom k s
      | none => replacementChar ++ roundTripFrom 0 s

/-- What the tracker reads from `json.Marshal(s)`: `s`, with each byte that starts no
rune replaced by U+FFFD. -/
def roundTrip (s : GoString) : GoString := roundTripFrom 0 s

example : roundTrip [0x6F, 0xC3, 0xA9, 0xFF, 0xE2, 0x82] =
    [0x6F, 0xC3, 0xA9, 0xEF, 0xBF, 0xBD, 0xEF, 0xBF, 0xBD, 0xEF, 0xBF, 0xBD] := by
  decide

end Json

/-- `Source`: which tracker an issue came from. -/
inductive Source where
  | gitHub
  | asana
  | linear
deriving DecidableEq, Repr

/-- `Issue`: an external work item, as a provider hands it to the daemon. -/
structure Issue where
  id : GoString
  title : GoString
  body : GoString
  url : GoString
  source : Source
deriving DecidableEq, Repr

/-- `FilterConfig`: the provider-specific parameters of `FetchIssues`.  An empty `label`
means no filtering; `project` is the Asana project GID, `team` the Linear team ID. -/
structure FilterConfig where
  label : GoString
  project : GoString
  team : GoString
deriving DecidableEq, Repr

end Erg
