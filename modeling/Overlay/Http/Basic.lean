import Overlay.Json.Basic

/-!
# HTTP messages

Requests and responses as far as the interface of a tier looks at them, and the texts of status
codes.
-/

namespace Overlay.Http

/-- A status code. -/
abbrev Status := Nat

namespace Status

/-- The standard reason of a code. -/
def reason? : Status → Option String
  | 100 => some "Continue"
  | 101 => some "Switching Protocols"
  | 102 => some "Processing"
  | 103 => some "Early Hints"
  | 200 => some "OK"
  | 201 => some "Created"
  | 202 => some "Accepted"
  | 203 => some "Non Authoritative Information"
  | 204 => some "No Content"
  | 205 => some "Reset Content"
  | 206 => some "Partial Content"
  | 207 => some "Multi-Status"
  | 208 => some "Already Reported"
  | 226 => some "IM Used"
  | 300 => some "Multiple Choices"
  | 301 => some "Moved Permanently"
  | 302 => some "Found"
  | 303 => some "See Other"
  | 304 => some "Not Modified"
  | 305 => some "Use Proxy"
  | 307 => some "Temporary Redirect"
  | 308 => some "Permanent Redirect"
  | 400 => some "Bad Request"
  | 401 => some "Unauthorized"
  | 402 => some "Payment Required"
  | 403 => some "Forbidden"
  | 404 => some "Not Found"
  | 405 => some "Method Not Allowed"
  | 406 => some "Not Acceptable"
  | 407 => some "Proxy Authentication Required"
  | 408 => some "Request Timeout"
  | 409 => some "Conflict"
  | 410 => some "Gone"
  | 411 => some "Length Required"
  | 412 => some "Precondition Failed"
  | 413 => some "Payload Too Large"
  | 414 => some "URI Too Long"
  | 415 => some "Unsupported Media Type"
  | 416 => some "Range Not Satisfiable"
  | 417 => some "Expectation Failed"
  | 418 => some "I'm a teapot"
  | 421 => some "Misdirected Request"
  | 422 => some "Unprocessable Entity"
  | 423 => some "Locked"
  | 424 => some "Failed Dependency"
  | 425 => some "Too Early"
  | 426 => some "Upgrade Required"
  | 428 => some "Precondition Required"
  | 429 => some "Too Many Requests"
  | 431 => some "Request Header Fields Too Large"
  | 451 => some "Unavailable For Legal Reasons"
  | 500 => some "Internal Server Error"
  | 501 => some "Not Implemented"
  | 502 => some "Bad Gateway"
  | 503 => some "Service Unavailable"
  | 504 => some "Gateway Timeout"
  | 505 => some "HTTP Version Not Supported"
  | 506 => some "Variant Also Negotiates"
  | 507 => some "Insufficient Storage"
  | 508 => some "Loop Detected"
  | 510 => some "Not Extended"
  | 511 => some "Network Authentication Required"
  | _ => none

/-- The code and its reason. -/
def display (s : Status) : String :=
  let reason := s.reason?.getD "<unknown status code>"
  s!"{s} {reason}"

/-- Whether the code says that the request was carried out. -/
def isSuccess (s : Status) : Bool :=
  200 ≤ s && s < 300

end Status

/-- A request. The target is the path and what follows it, as sent; a scheme and a host may come
before it. -/
structure Request where
  method : String
  target : String
  headers : List (String × String)
  body : Option String

/-- Whether a character may stand in the scheme of a target. -/
def isScheme (c : Char) : Bool :=
  c.isAlphanum || c = '+' || c = '-' || c = '.'

/-- Whether a character ends the path of a target. -/
def endsPath (c : Char) : Bool :=
  c = '?' || c = '#'

/-- The path of a target, without a scheme and a host before it and without a query after it. -/
def targetPath (target : String) : List Char :=
  let cs := target.toList
  let rest := match "://".toList.isPrefixOf? (cs.dropWhile isScheme) with
    | some rest => rest.dropWhile fun c => c != '/' && !endsPath c
    | none => cs
  rest.takeWhile fun c => !endsPath c

/-- A response. Without a body in JSON nothing is said about the body. -/
structure Response where
  status : Status
  body : Option Json

/-- The value of the first header of a name, which is written in lower case. -/
def Request.header? (r : Request) (name : String) : Option String :=
  (r.headers.find? fun h => h.1.toLower == name).map (·.2)

/-- The first header of a name, if its value holds visible characters, blanks and tabs only. -/
def Request.visibleHeader? (r : Request) (name : String) : Option String :=
  (r.header? name).filter fun v =>
    v.toList.all fun c => c = '\t' ∨ (0x20 ≤ c.toNat ∧ c.toNat < 0x7F)

end Overlay.Http
