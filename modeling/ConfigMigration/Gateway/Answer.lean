import ConfigMigration.Gateway.Head

/-!
# Answers of gateways

An answer is a status and a text, which may break off before its end.  An answer may point to another place, where
what was asked for can be found.
-/

namespace ConfigMigration

/-- The answer of a gateway. -/
structure GatewayAnswer where
  /-- The status: from 200 to 299 if the message was accepted. -/
  status : Nat
  /-- The text of the answer.  There is none if the text breaks off. -/
  body : Option String
  /-- The place to which the answer points. -/
  location : Option String := none
deriving DecidableEq, Repr

namespace GatewayAnswer

/-- Whether the message was accepted. -/
def isSuccess (a : GatewayAnswer) : Bool := 200 ≤ a.status && a.status < 300

/-- The front of a text that fills a number of bytes, and the rest.  A character of which only a part fits is replaced
by a mark. -/
def splitBytes? (count : Nat) : List Char → Option (List Char × List Char)
  | [] => if count = 0 then some ([], []) else none
  | c :: rest =>
    if count = 0 then some ([], c :: rest)
    else if count < c.utf8Size then some (['\uFFFD'], c :: rest)
    else (splitBytes? (count - c.utf8Size) rest).map fun (front, rest) => (c :: front, rest)

/-- The number of bytes at the front of a piece, and the rest behind the line. -/
def pieceSize? (text : List Char) : Option (Nat × List Char) := do
  let digits := text.takeWhile fun c => (Text.digit? 16 c).isSome
  guard (!digits.isEmpty)
  let size ← Text.number? 16 digits
  let rest := (text.drop digits.length).dropWhile AnswerHead.isGap
  let rest := if rest.head? = some ';' then rest.dropWhile fun c => c ≠ '\r' && c ≠ '\n' else rest
  match rest with
  | '\r' :: '\n' :: rest => return (size, rest)
  | _ => none

/-- The text that comes in pieces.  The last piece is empty and may be followed by fields;
`fuel` bounds the number of characters. -/
def pieces? : Nat → List Char → Option (List Char)
  | 0, _ => none
  | fuel + 1, text => do
    let (size, rest) ← pieceSize? text
    if size = 0 then (AnswerHead.fields? AnswerHead.fieldLimit rest).map fun _ => []
    else
      match ← splitBytes? size rest with
      | (piece, '\r' :: '\n' :: rest) => (pieces? fuel rest).map (piece ++ ·)
      | _ => none

/-- The text behind a head, if it does not break off. -/
def body? (text : List Char) : Extent → Option (List Char)
  | .none => some []
  | .bytes count => (splitBytes? count text).map (·.1)
  | .pieces => pieces? text.length text
  | .untilClosed => some text

/-- The answer that a text holds: a head, in front of which others may stand, and the text behind it. -/
def ofText? (text : List Char) : Option GatewayAnswer := do
  let (head, rest) ← AnswerHead.readLast? (text.length + 1) text
  let extent ← head.extent?
  return { status := head.status
           body := (body? rest extent).map String.ofList
           location := (head.valuesOf "location").head?.map String.ofList }

/-- What is received of an answer that is sent.  A status of three digits is needed; behind one that only announces an
answer, the answer is looked for in the text. -/
def received? (a : GatewayAnswer) : Option GatewayAnswer :=
  if a.status < 100 ∨ 1000 ≤ a.status then none
  else if AnswerHead.isInterim a.status then a.body.bind (ofText? ·.toList)
  else if AnswerHead.isTextless a.status then some { a with body := some "" }
  else some a

end GatewayAnswer

end ConfigMigration
