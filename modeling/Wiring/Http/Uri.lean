import Wiring.Disk.Path

/-!
# Request targets

The target of a request: a path with or without a query, an absolute address with a scheme, or the
name of a host alone. The characters that a path may have are wider than those of a host, and a
fragment is dropped.
-/

namespace Wiring

/-- The target of a request. -/
structure Uri where
  scheme? : Option String := none
  /-- The host with all that stands next to it; empty if there is none. -/
  host : String := ""
  path : String
  query? : Option String := none
  deriving DecidableEq, Repr, Inhabited

namespace Uri

/-- Letters, digits and a sign that no part of a target gives a meaning to. -/
def isPlain (c : Char) : Bool :=
  c.isAlphanum || c = '~'

/-- The characters of a scheme. -/
def isSchemeChar (c : Char) : Bool :=
  isPlain c || ['+', '-', '.'].contains c

/-- The characters of a host, those with a meaning apart. -/
def isHostChar (c : Char) : Bool :=
  isPlain c ||
    ['!', '$', '&', Char.ofNat 39, '(', ')', '*', '+', ',', '-', '.', ';', '=', '_'].contains c

/-- The characters of a path. -/
def isPathChar (c : Char) : Bool :=
  let n := c.toNat
  n = 0x21 || n = 0x22 || (0x24 ≤ n && n ≤ 0x3B) || n = 0x3D || (0x40 ≤ n && n ≤ 0x5F) ||
    (0x61 ≤ n && n ≤ 0x7F) || 0x80 ≤ n

/-- The characters of a query. -/
def isQueryChar (c : Char) : Bool :=
  let n := c.toNat
  n = 0x21 || (0x24 ≤ n && n ≤ 0x3B) || n = 0x3D || 0x3F ≤ n

/-- Reads a path with its query; a fragment ends them. -/
def pathAndQuery? (cs : List Char) : Option (String × Option String) :=
  let path := cs.takeWhile fun c => c ≠ '?' && c ≠ '#'
  if !path.all isPathChar then none
  else
    match cs.drop path.length with
    | '?' :: rest =>
      let query := rest.takeWhile (· ≠ '#')
      if query.all isQueryChar then some (String.ofList path, some (String.ofList query)) else none
    | _ => some (String.ofList path, none)

/-- What was seen of a host so far. -/
structure HostScan where
  colons : Nat := 0
  opened : Bool := false
  closed : Bool := false
  percent : Bool := false
  /-- Whether the last character was the sign between user and host. -/
  atSign : Bool := false

/-- Takes one more character of a host. -/
def HostScan.step (s : HostScan) (c : Char) : Option HostScan :=
  match c with
  | ':' => if s.colons < 8 then some { s with colons := s.colons + 1, atSign := false } else none
  | '[' => if s.percent || s.opened then none else some { s with opened := true, atSign := false }
  | ']' =>
    if !s.opened || s.closed then none
    else some { s with closed := true, colons := 0, percent := false, atSign := false }
  | '@' => some { s with colons := 0, percent := false, atSign := true }
  | '%' => some { s with percent := true, atSign := false }
  | c => if isHostChar c then some { s with atSign := false } else none

/-- Whether a host can end here: brackets in pairs, at most one port, nothing encoded but the user.
-/
def HostScan.isComplete (s : HostScan) : Bool :=
  s.opened == s.closed && s.colons ≤ 1 && !s.atSign && !s.percent

/-- Cuts the host from a target. It ends where a path, a query or a fragment starts. -/
def cutHost? (cs : List Char) : Option (List Char × List Char) := do
  let host := cs.takeWhile fun c => c ≠ '/' && c ≠ '?' && c ≠ '#'
  let scan ← host.foldlM HostScan.step {}
  if scan.isComplete then some (host, cs.drop host.length) else none

/-- Cuts the scheme from a target: `some none` if it has none, `none` if it is too long. -/
def cutScheme? (cs : List Char) : Option (Option (String × List Char)) :=
  let scheme := cs.takeWhile isSchemeChar
  match cs.drop scheme.length with
  | ':' :: '/' :: '/' :: rest =>
    if cs.length ≤ 3 then some none
    else if 64 < scheme.length then none
    else
      let name := String.ofList scheme
      let known := name.map Char.toLower
      some (some (if known = "http" || known = "https" then known else name, rest))
  | _ => some none

/-- The longest target, in bytes. -/
def maxSize : Nat := 65534

/-- Reads the target of a request. -/
def ofText? (s : String) : Option Uri := do
  if maxSize < s.utf8ByteSize then none
  else
    match s.toList with
    | [] => none
    | ['*'] => some { path := "*" }
    | '/' :: rest =>
      let (path, query?) ← pathAndQuery? ('/' :: rest)
      some { path, query? }
    | cs =>
      match ← cutScheme? cs with
      | none =>
        let (host, rest) ← cutHost? cs
        if rest = [] then some { host := String.ofList host, path := "" } else none
      | some (scheme, rest) =>
        let (host, rest) ← cutHost? rest
        if host = [] then none
        else
          let (path, query?) ← pathAndQuery? rest
          let path := if path = "" then "/" else path
          some { scheme? := some scheme, host := String.ofList host, path, query? }

/-- The target that a request has when nothing else is said. -/
def root : Uri :=
  { path := "/" }

/-- The target as text. -/
def text (u : Uri) : String :=
  ((u.scheme?.map (· ++ "://")).getD "") ++ u.host ++ u.path ++ ((u.query?.map ("?" ++ ·)).getD "")

end Uri

end Wiring
