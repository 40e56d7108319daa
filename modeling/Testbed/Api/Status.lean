import Testbed.Error
import Testbed.Json.Raw
import Testbed.Json.Record

namespace Testbed

/-!
Refusals of the cluster's API. A refusal usually carries a document that says why; when it does not, what is
said is put together from the status of the answer.
-/

namespace ApiStatus

/-- The phrases that go with the statuses of refusals. -/
def phrases : List (Nat × String) :=
  [(400, "Bad Request"), (401, "Unauthorized"), (402, "Payment Required"), (403, "Forbidden"),
    (404, "Not Found"), (405, "Method Not Allowed"), (406, "Not Acceptable"),
    (407, "Proxy Authentication Required"), (408, "Request Timeout"), (409, "Conflict"),
    (410, "Gone"), (411, "Length Required"), (412, "Precondition Failed"),
    (413, "Payload Too Large"), (414, "URI Too Long"), (415, "Unsupported Media Type"),
    (416, "Range Not Satisfiable"), (417, "Expectation Failed"), (418, "I'm a teapot"),
    (421, "Misdirected Request"), (422, "Unprocessable Entity"), (423, "Locked"),
    (424, "Failed Dependency"), (425, "Too Early"), (426, "Upgrade Required"),
    (428, "Precondition Required"), (429, "Too Many Requests"),
    (431, "Request Header Fields Too Large"), (451, "Unavailable For Legal Reasons"),
    (500, "Internal Server Error"), (501, "Not Implemented"), (502, "Bad Gateway"),
    (503, "Service Unavailable"), (504, "Gateway Timeout"), (505, "HTTP Version Not Supported"),
    (506, "Variant Also Negotiates"), (507, "Insufficient Storage"), (508, "Loop Detected"),
    (510, "Not Extended"), (511, "Network Authentication Required")]

/-- A status with its phrase. -/
def statusLine (status : Nat) : String :=
  toString status ++ " " ++ (phrases.lookup status).getD "<unknown status code>"

/-- Whether an answer with this status is a refusal. -/
def isRefusal (status : Nat) : Bool :=
  400 ≤ status && status < 600

/-- The refusal that a text states. -/
def ofText (text : String) : Option ApiStatus := do
  let document ← RawJson.parse text
  let [status, message, reason, code] ←
    document.plainFields? ["status", "message", "reason", "code"] | none
  return {
    status := ← Json.required Json.toString? status
    message := ← Json.defaulted "" Json.toString? message
    reason := ← Json.defaulted "" Json.toString? reason
    code := (← Json.required Json.toUInt16? code).toNat }

/-- The refusal in an answer. -/
def ofAnswer (status : Nat) (body : String) : ApiStatus :=
  match ofText body with
  | some stated => stated
  | none =>
    { status := statusLine status
      message := Text.quoted body
      reason := "Failed to parse error data"
      code := status }

/-- Whether a refusal says that there is no such object. -/
def saysNotFound (refusal : ApiStatus) : Bool :=
  refusal.reason == "NotFound"

end ApiStatus
end Testbed
