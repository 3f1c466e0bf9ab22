/-!
# Log records and traced computations

A part of the library that has something to report returns its events beside its
value, in the order in which they happen.  A record is what an event looks like
in a log: a level, the part of the program that speaks, and a message.
-/

namespace PathPolicy

/-- How serious a record is. -/
inductive Level
  | debug
  | info
  | warning
  | error
  deriving DecidableEq, Repr

namespace Level

/-- The name of a level. -/
def name : Level → String
  | .debug => "DEBUG"
  | .info => "INFO"
  | .warning => "WARNING"
  | .error => "ERROR"

/-- The levels in rising order. -/
def rank : Level → Nat
  | .debug => 0
  | .info => 1
  | .warning => 2
  | .error => 3

/-- A log kept at one level shows the records of that level and of those above. -/
def shows (threshold level : Level) : Bool :=
  threshold.rank ≤ level.rank

end Level

/-- The part of the program that speaks in a record. -/
inductive Origin
  | policyText
  | snapshot
  | evaluator
  | hierarchy
  | subtree
  | service
  deriving DecidableEq, Repr

/-- The name under which a part of the program logs. -/
def Origin.name : Origin → String
  | .policyText => "path_authz.spec.loader"
  | .snapshot => "path_authz.spec.document"
  | .evaluator => "path_authz.engine.evaluator"
  | .hierarchy => "path_authz.engine.hierarchy"
  | .subtree => "path_authz.engine.subtree"
  | .service => "path_authz.engine.service"

/-- An entry of the log. -/
structure Record where
  level : Level
  origin : Origin
  message : String
  deriving DecidableEq, Repr

/-- The line that a record takes in the log. -/
def Record.line (record : Record) : String :=
  record.level.name ++ " " ++ record.origin.name ++ ": " ++ record.message

/-- The lines of the records that a log of a level shows. -/
def Record.shownLines (threshold : Level) (records : List Record) : List String :=
  (records.filter fun record => threshold.shows record.level).map Record.line

/-- A value with the events that happened on the way to it. -/
structure Traced (ε α : Type) where
  events : List ε
  value : α
  deriving Repr

namespace Traced

variable {ε ζ α β : Type}

/-- A value on the way to which nothing happens. -/
def quiet (value : α) : Traced ε α :=
  ⟨[], value⟩

/-- One event. -/
def note (event : ε) : Traced ε Unit :=
  ⟨[event], ()⟩

/-- Goes on with the value; the later events follow the earlier ones. -/
def andThen (first : Traced ε α) (next : α → Traced ε β) : Traced ε β :=
  let second := next first.value
  ⟨first.events ++ second.events, second.value⟩

instance : Monad (Traced ε) where
  pure := quiet
  bind := andThen

/-- Reads every event as one of another kind. -/
def mapEvents (read : ε → ζ) (traced : Traced ε α) : Traced ζ α :=
  ⟨traced.events.map read, traced.value⟩

@[simp]
theorem value_pure (value : α) : (pure value : Traced ε α).value = value :=
  rfl

@[simp]
theorem events_pure (value : α) : (pure value : Traced ε α).events = [] :=
  rfl

@[simp]
theorem value_bind (first : Traced ε α) (next : α → Traced ε β) :
    (first >>= next).value = (next first.value).value :=
  rfl

@[simp]
theorem events_bind (first : Traced ε α) (next : α → Traced ε β) :
    (first >>= next).events = first.events ++ (next first.value).events :=
  rfl

@[simp]
theorem value_note (event : ε) : (note event).value = () :=
  rfl

@[simp]
theorem events_note (event : ε) : (note event).events = [event] :=
  rfl

@[simp]
theorem value_map (f : α → β) (traced : Traced ε α) : (f <$> traced).value = f traced.value :=
  rfl

@[simp]
theorem events_map (f : α → β) (traced : Traced ε α) : (f <$> traced).events = traced.events := by
  change traced.events ++ [] = traced.events
  simp

@[simp]
theorem value_mapEvents (read : ε → ζ) (traced : Traced ε α) :
    (traced.mapEvents read).value = traced.value :=
  rfl

@[simp]
theorem events_mapEvents (read : ε → ζ) (traced : Traced ε α) :
    (traced.mapEvents read).events = traced.events.map read :=
  rfl

end Traced

end PathPolicy
