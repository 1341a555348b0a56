import BundleTrust.Configuration
import BundleTrust.Script
import BundleTrust.Text.Numeral
import BundleTrust.Text.Utf8

/-!
# Exchanges with registries

Requests to registries and what comes of them.  Statuses are judged here and nowhere else.
A request that fails in a way that may be gone is repeated a bounded number of times, after
pauses that grow up to half a minute.
-/

namespace BundleTrust

/-- A request to a registry. -/
structure HttpRequest where
  /-- The address. -/
  address : String
  /-- The media types that are accepted, if any are named. -/
  accept : Option String
  /-- What shows that the sender may ask, if anything does. -/
  authorization : Option String
  /-- The name of the sender. -/
  userAgent : String
  deriving DecidableEq, Repr

/-- What comes of a request. -/
inductive HttpOutcome where
  /-- It could not be sent, or nothing came back. -/
  | unsent (detail : String)
  /-- An answer came back, whose body was read, or could not be read. -/
  | answered (status : Nat) (body : Except String (List UInt8))

/-- What a sender asks of the network. -/
inductive ExchangeRequest where
  /-- Send a request. -/
  | send (request : HttpRequest)
  /-- Pause for a random time of at most some milliseconds. -/
  | pause (milliseconds : UInt64)

/-- What the network replies. -/
abbrev ExchangeRequest.Reply : ExchangeRequest → Type
  | .send _ => HttpOutcome
  | .pause _ => Unit

/-- A script of requests to registries. -/
abbrev Exchange (Answer : Type) : Type :=
  Script ExchangeRequest ExchangeRequest.Reply Answer

/-- Why an attempt failed. -/
structure FailedAttempt where
  /-- The failure. -/
  error : BundleError
  /-- Whether another attempt may succeed. -/
  isTransient : Bool
  deriving DecidableEq, Repr

/-- The phrase that goes with a status that is neither a success nor the server's failure. -/
def reasonPhrases : List (Nat × String) :=
  [(100, "Continue"), (101, "Switching Protocols"), (102, "Processing"),
    (300, "Multiple Choices"), (301, "Moved Permanently"), (302, "Found"), (303, "See Other"),
    (304, "Not Modified"), (305, "Use Proxy"), (307, "Temporary Redirect"),
    (308, "Permanent Redirect"), (400, "Bad Request"), (402, "Payment Required"),
    (405, "Method Not Allowed"), (406, "Not Acceptable"),
    (407, "Proxy Authentication Required"), (408, "Request Timeout"), (409, "Conflict"),
    (410, "Gone"), (411, "Length Required"), (412, "Precondition Failed"),
    (413, "Payload Too Large"), (414, "URI Too Long"), (415, "Unsupported Media Type"),
    (416, "Range Not Satisfiable"), (417, "Expectation Failed"), (418, "I'm a teapot"),
    (421, "Misdirected Request"), (422, "Unprocessable Entity"), (423, "Locked"),
    (424, "Failed Dependency"), (426, "Upgrade Required"), (428, "Precondition Required"),
    (431, "Request Header Fields Too Large"), (451, "Unavailable For Legal Reasons")]

/-- A status with its phrase. -/
def statusText (status : Nat) : String :=
  Text.decimal status ++ " " ++ (reasonPhrases.lookup status).getD "<unknown status code>"

/-- Whether a status is one of the server's own failures, or asks for less haste. -/
def isTransientStatus (status : Nat) : Bool :=
  status == 429 || (500 ≤ status && status < 600)

/-- The body of an answer, or why there is none. -/
def judgeOutcome (reference : String) : HttpOutcome → Except FailedAttempt (List UInt8)
  | .unsent detail => .error ⟨.registry reference detail, true⟩
  | .answered status body =>
      if 200 ≤ status && status < 300 then
        body.mapError fun detail =>
          ⟨.registry reference ("failed to read response body: " ++ detail), true⟩
      else if status == 401 || status == 403 then
        .error ⟨.registry reference "unauthorized", false⟩
      else if status == 404 then .error ⟨.registry reference "not found", false⟩
      else if isTransientStatus status then
        .error ⟨.registry reference ("HTTP " ++ Text.decimal status), true⟩
      else
        let detail :=
          match body with
          | .ok octets => Text.decodeUtf8Lossy octets
          | .error _ => statusText status
        .error ⟨.registry reference ("HTTP " ++ Text.decimal status ++ ": " ++ detail), false⟩

/-- The longest pause before a repetition, in milliseconds: two seconds, and twice as much with
each repetition, up to half a minute. -/
def longestPause (repetition : UInt32) : UInt64 :=
  1000 * min ((1 : UInt64) <<< (min repetition 5).toUInt64) 30

/-- Whether a text can be sent in the head of a request. -/
def isHeaderText (text : String) : Bool :=
  text.toList.all fun character =>
    (0x20 ≤ character.toNat && character.toNat ≠ 0x7f) || character == '\t'

/-- Attempt a request once. -/
def attempt (reference : String) (request : HttpRequest) :
    Exchange (Except FailedAttempt (List UInt8)) :=
  if (request.authorization.map isHeaderText).getD true then
    .ask (.send request) fun outcome => .done (judgeOutcome reference outcome)
  else .done (judgeOutcome reference (.unsent "builder error"))

/-- Attempt a request and repeat it after failures that may be gone, as often as is left.
Before, it was repeated some times already. -/
def fetchFrom (reference : String) (request : HttpRequest) :
    (left : Nat) → (repetitions : UInt32) → Exchange (Except BundleError (List UInt8))
  | 0, _ =>
      (attempt reference request).bind fun result =>
        .done (result.mapError FailedAttempt.error)
  | left + 1, repetitions =>
      (attempt reference request).bind fun result =>
        match result with
        | .ok body => .done (.ok body)
        | .error failure =>
            if failure.isTransient then
              .ask (.pause (longestPause (repetitions + 1))) fun _ =>
                fetchFrom reference request left (repetitions + 1)
            else .done (.error failure.error)

/-- The name under which requests are sent. -/
def userAgent : String := "pkgbundle/0.4.0"

/-- A request under given settings.  A text in its head carries no blanks at its end. -/
def PullSettings.request (settings : PullSettings) (address : String)
    (accept : Option String) : HttpRequest where
  address := address
  accept := accept
  authorization := settings.token.map fun token =>
    String.ofList
      (Text.dropLastWhile (fun character => character = ' ' || character = '\t')
        ("Bearer " ++ token).toList)
  userAgent := userAgent

/-- Fetch what is at an address. -/
def PullSettings.fetch (settings : PullSettings) (reference address : String)
    (accept : Option String) : Exchange (Except BundleError (List UInt8)) :=
  fetchFrom reference (settings.request address accept) settings.maxRetries.toNat 0

end BundleTrust
