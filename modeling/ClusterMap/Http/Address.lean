import ClusterMap.Http.Status

/-!
# Addresses of HTTP resources

A request can be sent to an address whose authority, behind the scheme, is a host: perhaps with a
user before it, and perhaps with a port of 16 bits behind it (`isAddress`). Anything may follow the
authority. Tabs and line ends count for nothing, nor do blanks around the text, and a backslash does
as well as a slash.
-/

namespace ClusterMap.Http

/-- The characters of an address, without those that count for nothing. -/
def addressChars (s : String) : List Char :=
  let outside (c : Char) : Bool := c.toNat ≤ 0x20
  let cs := ((s.toList.dropWhile outside).reverse.dropWhile outside).reverse
  cs.filter fun c => c != '\t' && c != '\n' && c != '\r'

/-- Whether a character ends an authority. -/
def endsAuthority (c : Char) : Bool := ['/', '\\', '?', '#'].contains c

/-- The authority of an address: what stands between the slashes behind the scheme and the path, the
query or the fragment. -/
def authority (s : String) : List Char :=
  let rest := ((addressChars s).dropWhile (· != ':')).drop 1
  (rest.dropWhile fun c => c == '/' || c == '\\').takeWhile (!endsAuthority ·)

/-- An authority without the user in front of its last at-sign. -/
def withoutUser (cs : List Char) : List Char := (cs.reverse.takeWhile (· != '@')).reverse

/-- The host at the start of an authority without a user, and what follows it. A host with colons in
it stands in brackets, and there is none if they are not closed. -/
def splitHost (cs : List Char) : List Char × List Char :=
  match cs with
  | '[' :: rest =>
    match rest.dropWhile (· != ']') with
    | _ :: behind => (rest.takeWhile (· != ']'), behind)
    | [] => ([], [])
  | cs => (cs.takeWhile (· != ':'), cs.dropWhile (· != ':'))

/-- Whether a character may stand in a host. -/
def isHostChar (c : Char) : Bool :=
  0x20 < c.toNat && c.toNat != 0x7F && ['<', '>', '[', ']', '^', '|'].all (· != c)

/-- Whether what follows a host is nothing or a port. -/
def isPort : List Char → Bool
  | [] => true
  | ':' :: ds =>
    ds.all Char.isDigit && ds.foldl (fun n d => n * 10 + (d.toNat - '0'.toNat)) 0 < Nat.pow 2 16
  | _ => false

/-- Whether a request can be sent to a text. -/
def isAddress (s : String) : Bool :=
  let (host, rest) := splitHost (withoutUser (authority s))
  !host.isEmpty && host.all isHostChar && isPort rest

/-- What a request for an address comes to where there is no network. -/
def offline (url : String) : Answer :=
  .transport (if isAddress url then .unreachable else .badAddress)

end ClusterMap.Http
