import RecordMarkup.Failure
import RecordMarkup.Logging.Event

/-!
Computations on values. They read the settings and the meaning of the mappers' names, they may fail,
and they leave two traces that a failure does not undo: what they took from streams, and what they
logged.
-/

namespace RecordMarkup

/-- `requestNamespace` begins the names of the request framework's attributes; `safe` holds the
characters that percent-encoding leaves alone besides the unreserved ones. -/
structure Settings where
  requestNamespace : String := "hx-"
  safe : String := ""
  deriving DecidableEq, Repr

abbrev Mappings := String → Value → Except Failure Value

/-- Text may hold unpaired surrogates. No character is one, so that they are stood for by characters of
one's choice, each with the code that it stands for. -/
structure Context where
  settings : Settings := {}
  mappings : Mappings
  surrogate? : Char → Option Nat := fun _ => none

/-- How many items each stream has given, by its identity, and the log, oldest entry first. -/
structure State where
  taken : List (Nat × Nat) := []
  log : List Logging.Event := []

abbrev Eval := ReaderT Context (ExceptT Failure (StateM State))

namespace Eval

def outcome (action : Eval α) (context : Context) (state : State) : Except Failure α × State :=
  (action.run context).run.run state

def log (event : Logging.Event) : Eval Unit :=
  modify fun state => { state with log := state.log ++ [event] }

def settings : Eval Settings := return (← read).settings

@[simp] theorem outcome_pure (a : α) (context : Context) (state : State) :
    (pure a : Eval α).outcome context state = (.ok a, state) := rfl

@[simp] theorem outcome_throw (f : Failure) (context : Context) (state : State) :
    (throw f : Eval α).outcome context state = (.error f, state) := rfl

@[simp] theorem outcome_settings (context : Context) (state : State) :
    settings.outcome context state = (.ok context.settings, state) := rfl

@[simp] theorem outcome_log (event : Logging.Event) (context : Context) (state : State) :
    (log event).outcome context state =
      (.ok (), { state with log := state.log ++ [event] }) := rfl

theorem outcome_bind (action : Eval α) (next : α → Eval β) (context : Context) (state : State) :
    (action >>= next).outcome context state =
      match action.outcome context state with
      | (.ok a, state) => (next a).outcome context state
      | (.error f, state) => (.error f, state) := by
  change (ExceptT.bind (action context) fun a => next a context).run.run state = _
  simp only [outcome, ExceptT.bind, ExceptT.run, ExceptT.mk, ReaderT.run]
  change (match (action context).run state with
    | (r, state) => (ExceptT.bindCont (fun a => next a context) r).run state) = _
  split
  next r state' h =>
    rw [show StateT.run (action context) state = (r, state') from h]
    cases r <;> rfl

theorem outcome_bind_ok {action : Eval α} {next : α → Eval β} {context : Context}
    {state state' : State} {a : α} (h : action.outcome context state = (.ok a, state')) :
    (action >>= next).outcome context state = (next a).outcome context state' := by
  rw [outcome_bind, h]

theorem outcome_bind_error {action : Eval α} {next : α → Eval β} {context : Context}
    {state state' : State} {f : Failure} (h : action.outcome context state = (.error f, state')) :
    (action >>= next).outcome context state = (.error f, state') := by
  rw [outcome_bind, h]

theorem ext {a b : Eval α} (h : ∀ context state, a.outcome context state = b.outcome context state) :
    a = b := by
  funext context state
  exact h context state

theorem bind_congr {action : Eval α} {f g : α → Eval β}
    (h : ∀ context state a state', action.outcome context state = (.ok a, state') → f a = g a) :
    action >>= f = action >>= g := by
  refine ext fun context state => ?_
  rw [outcome_bind, outcome_bind]
  split
  next a state' ha => rw [h _ _ _ _ ha]
  next => rfl

end Eval

def State.position (state : State) (identity : Nat) : Nat :=
  (state.taken.lookup identity).getD 0

def State.advance (state : State) (identity : Nat) : State :=
  { state with
    taken := (identity, state.position identity + 1) ::
      state.taken.filter fun entry => entry.1 != identity }

namespace Value

/-- Takes what is left in a stream, one item after the other; each is worked on before the next is
taken. -/
def drain (identity : Nat) (items : List Value) (action : Value → Eval α) : Nat → Eval (List α)
  | 0 => return []
  | bound + 1 => do
    match items[(← get).position identity]? with
    | none => return []
    | some item =>
      modify (·.advance identity)
      let result ← action item
      return result :: (← drain identity items action bound)

def forEach (v : Value) (action : Value → Eval α) : Eval (List α) :=
  match v with
  | stream identity items => drain identity items action items.length
  | v =>
    match v.items? with
    | some items => items.mapM action
    | none => throw (.notIterable v.typeName)

def elements (v : Value) : Eval (List Value) := v.forEach pure

def requireHashable (v : Value) : Eval Unit :=
  match v.unhashable? with
  | some cause => throw (.unhashable cause)
  | none => return ()

def equals (a b : Value) : Eval Bool :=
  match equal? false a b with
  | some answer => return answer
  | none => throw .incomparable

def requireLength (v : Value) : Eval Nat :=
  match v.length? with
  | some n => return n
  | none => throw (.noLength v.typeName)

/-- Makes a record of a type from the values of its fields. Only a plain record type takes them by
position. The receiver counts as an argument. -/
def construct (identity : Nat) (t : RecordType) (args : List Value) : Except Failure Value :=
  let made := typedRecord (identity, t) (t.fields.zip args)
  let callee := t.name ++ ".__init__()"
  match t.kind with
  | .plain =>
    if t.fields.length < args.length then
      .error (.tooManyArguments callee (t.fields.length + 1) (args.length + 1))
    else if args.length < t.fields.length then
      .error (.missingArguments callee (t.fields.drop args.length))
    else .ok made
  | .checked =>
    if args.isEmpty then .ok made
    else .error (.tooManyArguments "BaseModel.__init__()" 1 (args.length + 1))
  | .fieldless => if args.isEmpty then .ok made else .error (.noArguments (t.name ++ "()"))

def call (function : Value) (args : List Value) : Eval Value := do
  match function, args with
  | mapper _ name, [arg] => MonadExcept.ofExcept ((← read).mappings name arg)
  | mapper .., [] => throw (.missingArguments "Mapper.__call__()" ["v"])
  | mapper .., args => throw (.tooManyArguments "Mapper.__call__()" 2 (args.length + 1))
  | recordType identity t, args => MonadExcept.ofExcept (construct identity t args)
  | v, _ => throw (.notCallable v.typeName)

def join (separator : String) (parts : List Value) : Eval String := do
  let texts ← parts.zipIdx.mapM fun (part, i) =>
    match part.text? with
    | some s => pure s
    | none => throw (.notJoinable i part.typeName)
  return separator.intercalate texts

end Value

end RecordMarkup
