import Launcher.Catalog.Load
import Launcher.Config.Stored
import Launcher.Session.Basic

/-!
# Requests

What a program asks of the launcher: to search a catalog once, or to start a session with it. The
catalog is given by its entries, or by a file with or without the built-in entries. The
configuration is given as such, or as a payload that changes the standard one or the stored one.

A refused configuration is reported as a refused request; a number that no double can hold, and
trouble with the stored configuration, are reported as they are.

Modelled are `search`, `create_controller`, `_resolve_config` and `_resolve_entries` of the
programming interface.
-/

namespace Launcher

/-- Where the configuration of a request comes from. -/
inductive ConfigSource where
  /-- This configuration. -/
  | given (config : Config)
  /-- A payload for the standard configuration; null changes nothing. -/
  | standard (payload : Value)
  /-- A payload for the configuration stored in a directory; null is the one in force. -/
  | stored (directory payload : Value)

/-- What a program asks for, apart from the query. -/
structure Request where
  entries : Option (List Entry)
  catalogPath : Value
  includeBuiltins : Bool
  config : ConfigSource

namespace Request

/-- A refused value as a refused request; other faults stay as they are. -/
def asRequest {α : Type} : Except Fault α → Except Fault α
  | .ok a => .ok a
  | .error fault => .error (if fault.isRejection then .request fault else fault)

/-- A payload, where null changes nothing. -/
def payloadOf (payload : Value) : Value := if payload.isNull then .object [] else payload

/-- The configuration that a payload is applied to, and the payload. -/
def source (machine : Machine) : ConfigSource → Except Fault (Config × Value)
  | .given config => .ok (config, .object [])
  | .standard payload => .ok (Config.standard, payloadOf payload)
  | .stored directory payload =>
    (Action.on (Machine.within directory Config.load) machine).1.map fun config =>
      (config, payloadOf payload)

/-- The configuration of a request, with further settings put over it. -/
def resolveConfig (machine : Machine) (config : ConfigSource) (overrides : Fields) :
    Except Fault Config := do
  let (base, payload) ← source machine config
  asRequest do
    let resolved ← Config.ofPayload base payload
    resolved.changeAll overrides

/-- The catalog of a request. -/
def resolveEntries (machine : Machine) (request : Request) : Warned (List Entry) :=
  match request.entries with
  | some entries => ⟨[], .ok entries⟩
  | none =>
    Catalog.resolve machine request.catalogPath
      (if request.includeBuiltins then builtinEntries machine.platform else [])

/-- The setting that a largest number of results makes; it must be positive. -/
def limitOverride (top : Value) : Except Fault Fields :=
  match top with
  | .null => .ok []
  | _ => (asRequest (top.positive "top")).map fun _ => [(Setting.limit.key, top)]

/-- A session that has searched a query. -/
def searched (session : Session) (query : Query) : Except Fault Session := do
  let (typed, holding) := session.textChanged query (.float 0.0)
  let _ ← typed
  let (flushed, after) := holding.flush
  let _ ← flushed
  .ok after

/-- The results of one search. -/
def search (machine : Machine) (request : Request) (query : Query) (top : Value) :
    Warned (List Result) :=
  let config := do resolveConfig machine request.config (← limitOverride top)
  match config with
  | .error fault => ⟨[], .error fault⟩
  | .ok config =>
    let entries := resolveEntries machine request
    ⟨entries.warnings, do
      let session ← Session.start config (← entries.result)
      (← searched session query).results⟩

/-- The configuration of a request and a session with it. -/
def session (machine : Machine) (request : Request) : Warned (Config × Session) :=
  let entries := resolveEntries machine request
  ⟨entries.warnings, do
    let entries ← entries.result
    let config ← resolveConfig machine request.config []
    let session ← Session.start config entries
    .ok (config, session)⟩

end Request

end Launcher
