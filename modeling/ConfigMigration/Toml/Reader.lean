/-!
# Reading the front of a text

A reader takes something from the front of a text and leaves the rest, or finds that the text does not begin with
it.  Of two alternatives the second is tried where the first fails.
-/

namespace ConfigMigration.Toml

/-- Takes something from the front of a text. -/
abbrev Reader := StateT (List Char) Option

namespace Reader

variable {α : Type}

/-- Takes a character of a kind. -/
def one (kind : Char → Bool) : Reader Char
  | [] => none
  | c :: rest => if kind c then some (c, rest) else none

/-- Takes a given character. -/
def char (c : Char) : Reader Unit := discard (one (· = c))

/-- Takes a given word. -/
def word (w : String) : Reader Unit := w.toList.forM char

/-- Takes all characters of a kind, up to the first of another kind. -/
def run (kind : Char → Bool) : Reader (List Char) := fun text =>
  some (text.takeWhile kind, text.dropWhile kind)

/-- Takes all characters of a kind, and at least one. -/
def run1 (kind : Char → Bool) : Reader (List Char) := do
  let first ← one kind
  return first :: (← run kind)

/-- Takes nothing, at the end of the text. -/
def ending : Reader Unit
  | [] => some ((), [])
  | _ :: _ => none

/-- What `r` takes again and again, until it fails or takes nothing more away, and the rest. -/
def collect (r : Reader α) (text : List Char) : List α × List Char :=
  match r text with
  | none => ([], text)
  | some (a, rest) =>
    if _shorter : rest.length < text.length then
      let later := collect r rest
      (a :: later.1, later.2)
    else ([], text)
termination_by text.length

/-- Takes what `r` takes, as often as there is more of it. -/
def many (r : Reader α) : Reader (List α) := fun text => some (collect r text)

/-- Takes a given number of characters of a kind. -/
def exactly (kind : Char → Bool) : Nat → Reader (List Char)
  | 0 => pure []
  | count + 1 => do
    let c ← one kind
    return c :: (← exactly kind count)

/-- Takes items with something between them, at least one. -/
def separated (between : Reader Unit) (item : Reader α) : Reader (List α) := do
  let first ← item
  return first :: (← many (between *> item))

/-- The characters that `r` takes. -/
def lexeme (r : Reader Unit) : Reader String := fun text => do
  let (_, rest) ← r text
  return (String.ofList (text.take (text.length - rest.length)), rest)

end Reader

end ConfigMigration.Toml
