import ConfigMigration.Gateway.Network

/-!
# Redirections

An answer may point to another place instead of giving what was asked for.  The place is named by a reference, which
is read at the address of the request, and the request is made again there.
-/

namespace ConfigMigration

namespace WebAddress

/-- Whether a character may stand in a reference. -/
def isReferenceChar (c : Char) : Bool :=
  c.isAlphanum || c ∈ "-._~!$&'()*+,;=:@/?#%".toList

/-- Whether a text is a reference: its percent signs stand in front of two digits. -/
def isReference : List Char → Bool
  | [] => true
  | '%' :: a :: b :: rest => (Text.digit? 16 a).isSome && (Text.digit? 16 b).isSome && isReference rest
  | c :: rest => isReferenceChar c && c ≠ '%' && isReference rest

/-- Whether a reference begins with the name of a protocol. -/
def hasProtocol (reference : List Char) : Bool :=
  let isNameChar (c : Char) : Bool := c.isAlphanum || c = '+' || c = '-' || c = '.'
  reference.head?.any Char.isAlpha && (reference.dropWhile isNameChar).head? = some ':'

/-- The name of the protocol with its colon. -/
def protocol (a : WebAddress) : String := if a.encrypted then "https:" else "http:"

/-- The address without what is asked of the host. -/
def origin (a : WebAddress) : String := a.protocol ++ "//" ++ a.host ++ ":" ++ toString a.portNumber

/-- The text of the address that a reference names at an address. -/
def follow (a : WebAddress) (reference : List Char) : String :=
  let text := String.ofList reference
  let path := a.resource.toList.takeWhile (· ≠ '?')
  if hasProtocol reference then text
  else if "//".toList.isPrefixOf reference then a.protocol ++ text
  else
    match reference with
    | [] | '#' :: _ => a.origin ++ a.resource
    | '/' :: _ => a.origin ++ text
    | '?' :: _ => a.origin ++ String.ofList path ++ text
    | _ => a.origin ++ String.ofList (path.reverse.dropWhile (· ≠ '/')).reverse ++ text

end WebAddress

/-- The request that an answer to a request asks for.  Some answers ask for the same request at another place, and
others only for what stands there. -/
def GatewayAnswer.redirection? (a : GatewayAnswer) (r : GatewayRequest) : Option GatewayRequest := do
  let message ←
    if a.status ∈ [301, 302, 303] then some none else if a.status ∈ [307, 308] then some r.message else none
  let reference := (← a.location).toList
  if WebAddress.isReference reference then
    return ⟨(← WebAddress.parse? r.address).follow reference, message⟩
  else none

namespace Network

/-- How often a request is made again. -/
def redirectionLimit : Nat := 10

variable {ν : Type} [Network ν]

/-- Carries a request and those that answers ask for, up to a limit, behind which there is no answer. -/
def exchangeUpTo : Nat → ν → GatewayRequest → Option GatewayAnswer × ν
  | limit, network, request =>
    let (answer, network) := exchange network request
    match limit, answer.bind (·.redirection? request) with
    | _, none => (answer, network)
    | 0, some _ => (none, network)
    | limit + 1, some request => exchangeUpTo limit network request

/-- Carries a request to where it is answered. -/
def request (network : ν) (r : GatewayRequest) : Option GatewayAnswer × ν :=
  exchangeUpTo redirectionLimit network r

end Network

end ConfigMigration
