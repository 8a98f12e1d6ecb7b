import ConfigMigration.Gateway.Host

/-!
# Addresses of gateways

A web address names a host, a port and what is asked of the host.  Addresses are read leniently: slashes may lean
either way, and characters that must not stand in an address are written as the hexadecimal digits of their bytes.
-/

namespace ConfigMigration

/-- A web address. -/
structure WebAddress where
  /-- Whether the connection is encrypted. -/
  encrypted : Bool
  /-- The host. -/
  host : String
  /-- The port. -/
  portNumber : Nat
  /-- What is asked of the host: a path, and a query if there is one. -/
  resource : String
deriving DecidableEq, Repr

namespace WebAddress

/-! ### Characters -/

/-- The upper-case hexadecimal digit of a number below sixteen. -/
def hexDigit (n : Nat) : Char :=
  if n < 10 then Char.ofNat ('0'.toNat + n) else Char.ofNat ('A'.toNat + (n - 10))

/-- A character as a percent sign and two digits for each of its bytes. -/
def percentEncode (c : Char) : List Char :=
  (String.singleton c).toUTF8.toList.flatMap fun b =>
    ['%', hexDigit (b.toNat / 16), hexDigit (b.toNat % 16)]

/-- The control characters, the space, the marks around addresses, and all characters beyond ASCII. -/
def isUnsafe (c : Char) : Bool :=
  c.toNat ≤ 0x20 || 0x7F ≤ c.toNat || c = '"' || c = '<' || c = '>' || c = '#'

/-- A character of a path. -/
def pathChar (c : Char) : List Char :=
  if isUnsafe c || c = '?' || c = '\x60' || c = '\x7b' || c = '\x7d' then percentEncode c else [c]

/-- A character of a query. -/
def queryChar (c : Char) : List Char :=
  if isUnsafe c || c = '\x27' then percentEncode c else [c]

/-- Slashes of either kind. -/
def isSlash (c : Char) : Bool := c = '/' || c = '\\'

/-! ### Paths -/

/-- Whether a name means the place where it stands. -/
def isDot (name : List Char) : Bool :=
  (String.ofList name).toLower ∈ [".", "%2e"]

/-- Whether a name means the place above. -/
def isDoubleDot (name : List Char) : Bool :=
  (String.ofList name).toLower ∈ ["..", ".%2e", "%2e.", "%2e%2e"]

/-- Whether a name is the letter of a drive with its mark. -/
def isDrive : List Char → Bool
  | [letter, mark] => letter.isAlpha && (mark = ':' || mark = '|')
  | _ => false

/-- The place above names that are given in reverse.  There is none above a drive. -/
def above : List (List Char) → List (List Char)
  | [] => []
  | name :: reversed => if isDrive name then name :: reversed else reversed

/-- The names of a path without those that mean a place; the names before it are given in reverse. -/
def resolve (reversed : List (List Char)) : List (List Char) → List (List Char)
  | [] => reversed.reverse
  | [name] =>
    if isDoubleDot name then ([] :: above reversed).reverse
    else if isDot name then ([] :: reversed).reverse
    else (name :: reversed).reverse
  | name :: rest =>
    if isDoubleDot name then resolve (above reversed) rest
    else if isDot name then resolve reversed rest
    else resolve (name :: reversed) rest

/-- The path of a text that begins behind the first slash. -/
def pathOf (text : List Char) : List Char :=
  (resolve [] (text.splitOnP isSlash)).flatMap fun name => '/' :: name.flatMap pathChar

/-! ### Ports -/

/-- The port of a text, which may be empty. -/
def portNumber? (standard : Nat) (digits : List Char) : Option Nat :=
  if digits.isEmpty then some standard
  else (Text.number? 10 digits).filter (· < UInt16.size)

/-! ### Addresses -/

/-- The part of a text behind the last character of a kind; the whole text if there is none. -/
def behindLast (kind : Char → Bool) (text : List Char) : List Char :=
  (text.reverse.takeWhile fun c => !kind c).reverse

/-- The host and the port of a text that may begin with the name of a user.  Hosts in brackets keep their colons. -/
def authority? (standard : Nat) (text : List Char) : Option (String × Nat) := do
  let text := behindLast (· = '@') text
  let name := if text.head? = some '[' then text.takeWhile (· ≠ ']') ++ [']'] else text.takeWhile (· ≠ ':')
  let host ← Host.parse? name
  match text.drop name.length with
  | [] => return (host, standard)
  | ':' :: digits => return (host, ← portNumber? standard digits)
  | _ => none

/-- The address that a text describes, which begins with the name of a protocol. -/
def parse? (text : String) : Option WebAddress := do
  let text := text.toList.filter fun c => c ≠ '\t' && c ≠ '\n' && c ≠ '\r'
  let plain := "http:".toList
  let secure := "https:".toList
  let encrypted := secure.isPrefixOf text
  guard (encrypted || plain.isPrefixOf text)
  let rest := (text.drop (if encrypted then secure.length else plain.length)).dropWhile isSlash
  let rest := rest.takeWhile (· ≠ '#')
  let front := rest.takeWhile fun c => !isSlash c && c ≠ '?'
  let (host, portNumber) ← authority? (if encrypted then 443 else 80) front
  let rest := rest.drop front.length
  let path := rest.takeWhile (· ≠ '?')
  let query := rest.drop path.length
  return { encrypted, host, portNumber
           resource := String.ofList (pathOf (path.drop 1) ++ query.take 1 ++ (query.drop 1).flatMap queryChar) }

end WebAddress

end ConfigMigration
