import ConfigMigration.Text.Quoted
import ConfigMigration.Number.Basic

/-!
# Events

What a run reports on its way.  An event has a level, comes from one component of the program, and carries named
fields beside its message.
-/

namespace ConfigMigration

/-- How much an event matters. -/
inductive Level where
  /-- Something failed. -/
  | error
  /-- Something was left out. -/
  | warn
  /-- A stage of the work is done. -/
  | info
  /-- A detail of the work. -/
  | debug
  /-- The finest detail. -/
  | trace
deriving DecidableEq, Repr

namespace Level

/-- The name of a level. -/
def name : Level → String
  | error => "ERROR"
  | warn => "WARN"
  | info => "INFO"
  | debug => "DEBUG"
  | trace => "TRACE"

/-- The place of a level among the levels, the most severe one first. -/
def rank : Level → Nat
  | error => 1
  | warn => 2
  | info => 3
  | debug => 4
  | trace => 5

end Level

/-- The part of the program that an event comes from. -/
inductive Component where
  /-- Identifiers. -/
  | identifier
  /-- The store in memory. -/
  | memoryStore
  /-- The store behind a gateway. -/
  | gatewayStore
  /-- The migrator. -/
  | migrator
  /-- The step for device groups. -/
  | deviceGroup
  /-- The settings. -/
  | settings
  /-- The command line. -/
  | commandLine
deriving DecidableEq, Repr

/-- The name under which a filter knows a component. -/
def Component.name : Component → String
  | identifier => "cfgmig_ident::identifier"
  | memoryStore => "cfgmig_store::memory"
  | gatewayStore => "cfgmig_store::http"
  | migrator => "cfgmig_core::migrator"
  | deviceGroup => "cfgmig_transforms::device_group"
  | settings => "cfgmig_cli::settings"
  | commandLine => "cfgmig"

/-- The value of a field of an event. -/
inductive FieldValue where
  /-- A text, which is quoted where fields are told apart by their marks. -/
  | text (s : String)
  /-- The display of something, which stands as it is. -/
  | display (s : String)
  /-- An integer. -/
  | integer (n : Int)
  /-- A truth value. -/
  | flag (b : Bool)
deriving DecidableEq, Repr

namespace FieldValue

/-- The field of a natural number. -/
def count (n : Nat) : FieldValue := integer n

/-- The field of an optional text, with its marks. -/
def optional (s : Option String) : FieldValue := display (Text.quotedOption s)

/-- The field of a list of texts, with its marks. -/
def list (l : List String) : FieldValue := display (Text.quotedList l)

/-- The value as plain text. -/
def plain : FieldValue → String
  | text s | display s => s
  | integer n => String.ofList (integerText n)
  | flag b => if b then "true" else "false"

end FieldValue

/-- Something that a run reports. -/
structure Event where
  /-- How much it matters. -/
  level : Level
  /-- Where it comes from. -/
  component : Component
  /-- What happened. -/
  message : String
  /-- The particulars, by name. -/
  fields : List (String × FieldValue) := []
deriving DecidableEq, Repr

/-- A result and the events reported on the way to it. -/
structure Logged (α : Type) where
  /-- The events, in order. -/
  events : List Event
  /-- The result. -/
  value : α
deriving Repr

namespace Logged

variable {α β : Type}

/-- Reports an event. -/
def log (event : Event) : Logged Unit := ⟨[event], ()⟩

instance : Monad Logged where
  pure a := ⟨[], a⟩
  bind x f := ⟨x.events ++ (f x.value).events, (f x.value).value⟩

@[simp] theorem value_pure (a : α) : (pure a : Logged α).value = a := rfl

@[simp] theorem events_pure (a : α) : (pure a : Logged α).events = [] := rfl

@[simp] theorem value_bind (x : Logged α) (f : α → Logged β) : (x >>= f).value = (f x.value).value := rfl

@[simp] theorem events_bind (x : Logged α) (f : α → Logged β) :
    (x >>= f).events = x.events ++ (f x.value).events := rfl

@[simp] theorem value_map (f : α → β) (x : Logged α) : (f <$> x).value = f x.value := rfl

instance : LawfulMonad Logged :=
  LawfulMonad.mk' Logged
    (fun x => by cases x; simp [Functor.map])
    (fun a f => by simp [bind, pure])
    (fun x f g => by simp [bind, List.append_assoc])

end Logged

end ConfigMigration
