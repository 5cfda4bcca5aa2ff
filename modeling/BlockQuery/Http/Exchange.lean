import BlockQuery.Http.Address
import BlockQuery.Json.Reader
import BlockQuery.Service.Failure

/-!
# Exchanges with web services

A request is built first and sent afterwards. Building fails when there is no address to send it to
or a header cannot hold its value. Sending is left to a `Transport`, which either brings a response
or says that it could not.

A response counts only if its status says so. Its body is then read as JSON.
-/

namespace BlockQuery.Http

/-- A request. -/
structure Request where
  method : String
  address : Address
  headers : List (String × String)
  body : Option Json

/-- A response. -/
structure Response where
  status : Nat
  body : String
  deriving DecidableEq, Repr

/-- Sends a request. -/
abbrev Transport := Request → Except Failure Response

/-- A transport that reaches no one. -/
def unreachable : Transport := fun r ↦
  .error (.transport s!"error sending request for url ({r.address.text})")

/-! ### Building -/

/-- Whether a header can hold a value: controls other than a tab have no place in it. -/
def isHeaderValue (value : String) : Bool :=
  value.toList.all fun c ↦ c = '\t' || (0x20 ≤ c.toNat && c.toNat ≠ 0x7f)

/-- What is said of a request that cannot be built. -/
def unbuildable : Failure :=
  .transport "builder error"

/-- What is said of a request that cannot be built for an address. -/
def unbuildableFor (a : Address) : Failure :=
  .transport s!"builder error for url ({a.text})"

/-- The request, unless the text denotes no address that requests can be sent to or a header cannot
hold its value. -/
def build (method url : String) (fields headers : List (String × String)) (body : Option Json) :
    Except Failure Request :=
  match Address.parse? url with
  | none => .error unbuildable
  | some bare =>
    let address := if fields.isEmpty then bare else bare.withFields fields
    -- the host is asked for first, then the headers, and only at last whether it can be sent there
    if !bare.hasHost then .error (unbuildableFor bare)
    else if !headers.all (isHeaderValue ·.2) then .error unbuildable
    else if !address.isSendable then .error (unbuildableFor address)
    else .ok ⟨method, address, headers, body⟩

/-! ### Reading responses -/

/-- The standard words for a status. -/
def reasons : List (Nat × String) :=
  [(100, "Continue"), (101, "Switching Protocols"), (102, "Processing"), (103, "Early Hints"),
    (200, "OK"), (201, "Created"), (202, "Accepted"), (203, "Non Authoritative Information"),
    (204, "No Content"), (205, "Reset Content"), (206, "Partial Content"), (207, "Multi-Status"),
    (208, "Already Reported"), (226, "IM Used"), (300, "Multiple Choices"),
    (301, "Moved Permanently"), (302, "Found"), (303, "See Other"), (304, "Not Modified"),
    (305, "Use Proxy"), (307, "Temporary Redirect"), (308, "Permanent Redirect"),
    (400, "Bad Request"), (401, "Unauthorized"), (402, "Payment Required"), (403, "Forbidden"),
    (404, "Not Found"), (405, "Method Not Allowed"), (406, "Not Acceptable"),
    (407, "Proxy Authentication Required"), (408, "Request Timeout"), (409, "Conflict"),
    (410, "Gone"), (411, "Length Required"), (412, "Precondition Failed"),
    (413, "Payload Too Large"), (414, "URI Too Long"), (415, "Unsupported Media Type"),
    (416, "Range Not Satisfiable"), (417, "Expectation Failed"), (418, "I'm a teapot"),
    (421, "Misdirected Request"), (422, "Unprocessable Entity"), (423, "Locked"),
    (424, "Failed Dependency"), (425, "Too Early"), (426, "Upgrade Required"),
    (428, "Precondition Required"), (429, "Too Many Requests"),
    (431, "Request Header Fields Too Large"), (451, "Unavailable For Legal Reasons"),
    (500, "Internal Server Error"), (501, "Not Implemented"), (502, "Bad Gateway"),
    (503, "Service Unavailable"), (504, "Gateway Timeout"), (505, "HTTP Version Not Supported"),
    (506, "Variant Also Negotiates"), (507, "Insufficient Storage"), (508, "Loop Detected"),
    (510, "Not Extended"), (511, "Network Authentication Required")]

/-- A status with its standard words. -/
def statusText (status : Nat) : String :=
  let reason := (reasons.lookup status).getD "<unknown status code>"
  s!"{status} {reason}"

/-- The value in the body of a response, unless the status or the body is not as it should be. -/
def Response.read {α : Type} (reader : Json.Reader α) (url : String) (r : Response) :
    Except Failure α :=
  if r.status < 200 ∨ 300 ≤ r.status then
    .error (.transport s!"HTTP {statusText r.status} from {url}")
  else
    (reader.run r.body).mapError fun _ ↦ .malformed "error decoding response body"

end BlockQuery.Http
