import ConfigMigration.Json.Token

/-!
# JSON terms

A term is a JSON value as it is written, as far as the text can be read.  Every text has a term: where the text
breaks off, the innermost value is `broken`, or an array or object carries the fault that was met where its next
part was due.  Who reads a term in the order of the text meets the faults in the order of the text.
-/

namespace ConfigMigration.Json

/-- A value as it is written. -/
inductive Term where
  /-- The null value. -/
  | null
  /-- A truth value. -/
  | bool (b : Bool)
  /-- A number. -/
  | number (numeral : Numeral)
  /-- A number in whose middle the text ends. -/
  | cutNumber
  /-- A string. -/
  | string (s : Spelling)
  /-- An array, and the fault behind its last item if it is not closed. -/
  | array (items : List Term) (ending : Option Fault)
  /-- An object, and the fault behind its last member if it is not closed. -/
  | object (members : List (Spelling × Term)) (ending : Option Fault)
  /-- No value, with the fault met in its place. -/
  | broken (fault : Fault)

/-- A text: its first value, and whether anything but space follows. -/
structure Document where
  /-- The first value. -/
  value : Term
  /-- Whether anything but space follows it. -/
  trailing : Bool

namespace Term

/-- An open array or object around the value that is being read. -/
inductive Frame where
  /-- An array with the items read so far, the last one first. -/
  | array (reversed : List Term)
  /-- An object with the members read so far, the last one first, and the name of the value that is being read. -/
  | object (reversed : List (Spelling × Term)) (name : Spelling)

/-- What is due next. -/
inductive Place where
  /-- A value. -/
  | value
  /-- A value or the end of an array. -/
  | firstItem
  /-- A comma or the end of an array. -/
  | afterItem (reversed : List Term)
  /-- A name, or the end of an object that is still empty. -/
  | name (reversed : List (Spelling × Term))
  /-- A colon. -/
  | colon (reversed : List (Spelling × Term)) (name : Spelling)
  /-- A comma or the end of an object. -/
  | afterMember (reversed : List (Spelling × Term))
  /-- Nothing: the outermost value is complete. -/
  | nothing (value : Term)

/-- The place behind a complete value. -/
def complete (value : Term) : List Frame → Place × List Frame
  | [] => (.nothing value, [])
  | .array reversed :: frames => (.afterItem (value :: reversed), frames)
  | .object reversed name :: frames => (.afterMember ((name, value) :: reversed), frames)

/-- The outermost value around a value that breaks off. -/
def unwind (fault : Fault) (value : Term) : List Frame → Term
  | [] => value
  | .array reversed :: frames => unwind fault (array (value :: reversed).reverse (some fault)) frames
  | .object reversed name :: frames =>
    unwind fault (object ((name, value) :: reversed).reverse (some fault)) frames

/-- The document that breaks off at a place. -/
def breakOff (fault : Fault) (frames : List Frame) : Place → Document
  | .value => ⟨unwind fault (broken fault) frames, false⟩
  | .firstItem => ⟨unwind fault (array [] (some fault)) frames, false⟩
  | .afterItem reversed => ⟨unwind fault (array reversed.reverse (some fault)) frames, false⟩
  | .name reversed | .afterMember reversed => ⟨unwind fault (object reversed.reverse (some fault)) frames, false⟩
  | .colon reversed name =>
    ⟨unwind fault (object ((name, broken fault) :: reversed).reverse (some fault)) frames, false⟩
  | .nothing value => ⟨value, false⟩

/-- Reads the first token of a value: the place behind it, or the fault met. -/
def startValue (frames : List Frame) : Token → Except Fault (Place × List Frame)
  | .null => .ok (complete null frames)
  | .bool b => .ok (complete (bool b) frames)
  | .number numeral => .ok (complete (number numeral) frames)
  | .cutNumber => .ok (complete cutNumber frames)
  | .string s => .ok (complete (string s) frames)
  | .openArray => .ok (.firstItem, frames)
  | .openObject => .ok (.name [], frames)
  | .broken fault => .error fault
  | .closeArray | .closeObject | .comma | .colon => .error .malformed

/-- Reads one token: the place behind it, or the fault met. -/
def step (place : Place) (frames : List Frame) (token : Token) : Except Fault (Place × List Frame) :=
  match place, token with
  | .value, token => startValue frames token
  | .firstItem, .closeArray => .ok (complete (array [] none) frames)
  | .firstItem, token => startValue (.array [] :: frames) token
  | .afterItem reversed, .comma => .ok (.value, .array reversed :: frames)
  | .afterItem reversed, .closeArray => .ok (complete (array reversed.reverse none) frames)
  | .name reversed, .string s => .ok (.colon reversed s, frames)
  | .name [], .closeObject => .ok (complete (object [] none) frames)
  | .colon reversed name, .colon => .ok (.value, .object reversed name :: frames)
  | .afterMember reversed, .comma => .ok (.name reversed, frames)
  | .afterMember reversed, .closeObject => .ok (complete (object reversed.reverse none) frames)
  | _, _ => .error .malformed

/-- The document of the tokens from a place on. -/
def run (place : Place) (frames : List Frame) : List Token → Document
  | [] => breakOff .ended frames place
  | token :: tokens =>
    match place with
    | .nothing value => ⟨value, true⟩
    | place =>
      match step place frames token with
      | .ok (place, frames) => run place frames tokens
      | .error fault =>
        match place with
        -- An array whose first item cannot be read has this item.
        | .firstItem => ⟨unwind fault (broken fault) (.array [] :: frames), false⟩
        | place => breakOff fault frames place

end Term

/-- The document of a text. -/
def Document.ofChars (text : List Char) : Document :=
  Term.run .value [] (Token.ofChars text)

end ConfigMigration.Json
