import ActionPriority.Uuid

/-! # Diagnostics

    The messages that come up while a priority list is compiled, in order.  Each has a
    level, and the identifier of the entry it is about if that entry has one.
-/

namespace ActionPriority

/-- How serious a message is. -/
inductive Level where
  | info
  | warning
  | error
  deriving DecidableEq, Repr

namespace Level

/-- All levels. -/
def all : List Level := [.info, .warning, .error]

/-- The name of a level. -/
def name : Level → String
  | .info => "Info"
  | .warning => "Warning"
  | .error => "Error"

/-- The level of that name. -/
def ofName? (text : String) : Option Level := all.find? (·.name = text)

end Level

/-- One message. -/
structure Message where
  level : Level
  /-- The entry that it is about. -/
  entry : Option Uuid
  body : String
  deriving DecidableEq, Repr

/-- The text of a message: its level, its entry if it has one, and what it says. -/
def Message.text (m : Message) : String :=
  match m.entry with
  | some id => "[" ++ m.level.name ++ "] " ++ id.text ++ ": " ++ m.body
  | none => "[" ++ m.level.name ++ "] " ++ m.body

/-- The messages so far. -/
structure Diagnostics where
  messages : List Message
  deriving DecidableEq, Repr

namespace Diagnostics

/-- No messages. -/
def empty : Diagnostics := ⟨[]⟩

/-- The diagnostics with one more message. -/
def push (d : Diagnostics) (level : Level) (entry : Option Uuid) (body : String) : Diagnostics :=
  ⟨d.messages ++ [⟨level, entry, body⟩]⟩

/-- The diagnostics with one more warning. -/
def warn (d : Diagnostics) (entry : Option Uuid) (body : String) : Diagnostics :=
  d.push .warning entry body

/-- The warnings among the messages. -/
def warnings (d : Diagnostics) : List Message := d.messages.filter (·.level = .warning)

/-- The messages about one entry. -/
def forEntry (d : Diagnostics) (entry : Uuid) : List Message :=
  d.messages.filter (·.entry = some entry)

@[simp] theorem messages_push (d : Diagnostics) (level : Level) (entry : Option Uuid)
    (body : String) : (d.push level entry body).messages = d.messages ++ [⟨level, entry, body⟩] :=
  rfl

end Diagnostics

end ActionPriority
