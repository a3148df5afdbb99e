/-!
# HTTP status codes

The registered codes with their reasons, and the classes that decide what a client does next.
-/

namespace ClusterMap.Http

/-- The registered codes and their reasons. -/
def reasons : List (Nat × String) :=
  [(100, "Continue"), (101, "Switching Protocols"), (102, "Processing"), (103, "Early Hints"),
   (200, "OK"), (201, "Created"), (202, "Accepted"), (203, "Non Authoritative Information"),
   (204, "No Content"), (205, "Reset Content"), (206, "Partial Content"), (207, "Multi-Status"),
   (208, "Already Reported"), (226, "IM Used"), (300, "Multiple Choices"),
   (301, "Moved Permanently"), (302, "Found"), (303, "See Other"), (304, "Not Modified"),
   (305, "Use Proxy"), (307, "Temporary Redirect"), (308, "Permanent Redirect"),
   (400, "Bad Request"), (401, "Unauthorized"), (402, "Payment Required"), (403, "Forbidden"),
   (404, "Not Found"), (405, "Method Not Allowed"), (406, "Not Acceptable"),
   (407, "Proxy Authentication Required"), (408, "Request Timeout"), (409, "Conflict"),
   (410, "Gone"), (411, "Length Required"), (412, "Precondition Failed"),
   (413, "Payload Too Large"), (414, "URI Too Long"), (415, "Unsupported Media Type"),
   (416, "Range Not Satisfiable"), (417, "Expectation Failed"), (418, "I'm a teapot"),
   (421, "Misdirected Request"), (422, "Unprocessable Entity"), (423, "Locked"),
   (424, "Failed Dependency"), (425, "Too Early"), (426, "Upgrade Required"),
   (428, "Precondition Required"), (429, "Too Many Requests"),
   (431, "Request Header Fields Too Large"), (451, "Unavailable For Legal Reasons"),
   (500, "Internal Server Error"), (501, "Not Implemented"), (502, "Bad Gateway"),
   (503, "Service Unavailable"), (504, "Gateway Timeout"), (505, "HTTP Version Not Supported"),
   (506, "Variant Also Negotiates"), (507, "Insufficient Storage"), (508, "Loop Detected"),
   (510, "Not Extended"), (511, "Network Authentication Required")]

/-- The reason of a code. -/
def reason (code : Nat) : String :=
  match reasons.find? (·.1 == code) with
  | some (_, text) => text
  | none => "<unknown status code>"

/-- A code with its reason. -/
def describeStatus (code : Nat) : String := s!"{code} " ++ reason code

/-- Codes of success. -/
def isSuccess (code : Nat) : Bool := 200 ≤ code && code ≤ 299

/-- Codes of a fault of the server. -/
def isServerError (code : Nat) : Bool := 500 ≤ code && code ≤ 599

/-- The code of a client that asks too often. -/
def tooManyRequests : Nat := 429

/-- Why no answer arrived. -/
inductive TransportError where
  /-- No connection could be made. -/
  | unreachable
  /-- The connection went silent for too long. -/
  | timedOut
  /-- The connection ended without an answer. -/
  | closed
  /-- The address is no URL. -/
  | badAddress
deriving DecidableEq, Repr

/-- What one request brings about. -/
inductive Answer where
  | response (status : Nat) (body : String)
  | timeout
  | transport (e : TransportError)
deriving DecidableEq, Repr

/-- A transport error in words. -/
def TransportError.message : TransportError → String
  | .unreachable => "error sending request: connection refused"
  | .timedOut => "error sending request: operation timed out"
  | .closed => "error sending request: connection closed before message completed"
  | .badAddress => "builder error: invalid address"

end ClusterMap.Http
