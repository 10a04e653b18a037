import RegexGateway.Table.Registry
import RegexGateway.Wire.Handler

namespace RegexGateway

inductive TransportFault where
  | failed (message : String)
  | lost (loss : Loss)
  deriving DecidableEq, Repr

namespace TransportFault

def message : TransportFault → String
  | failed message => message
  | lost loss => loss.message

def loss? : TransportFault → Option Loss
  | failed _ => none
  | lost loss => some loss

end TransportFault

inductive RemoteFault where
  | transport (fault : TransportFault)
  | unreadable (action : Action) (error : Json.DecodeError)

def RemoteFault.message : RemoteFault → String
  | transport f => f.message
  | unreadable action e => "unreadable " ++ action.name ++ " response: " ++ e.message

inductive EngineError where
  | config (error : ConfigError)
  | run (fault : RunFault)
  | remote (engine : String) (fault : RemoteFault)
  | noPendingError (regexId : Int)

namespace EngineError

def message : EngineError → String
  | config e => e.message
  | run f => f.message
  | remote engine fault => "remote engine `" ++ engine ++ "` failed: " ++ fault.message
  | noPendingError id =>
    "last pattern was valid; no error is pending for pattern " ++ toString id

/-- How the call is lost, if it never comes back. -/
def loss? : EngineError → Option Loss
  | run f => f.cause.loss?
  | remote _ (.transport f) => f.loss?
  | _ => none

end EngineError

/-- Carries the text of a request to another process and brings back the text of its response. The
state is that of the world in between. -/
abbrev Transport (σ : Type) := String → StateM σ (Except TransportFault String)

/-- Where an engine's patterns run. -/
inductive Backend (σ : Type) where
  | inProcess (dialect : Dialect)
  | remote (transport : Transport σ)

/-- What an engine keeps between calls. The pending error is that of the last pattern that was
tested, if it could not be used. -/
structure EngineState where
  capabilities : Capabilities
  config : MatchConfig
  defaults : Defaults
  pending : Option PatternError
  deriving DecidableEq, Repr

namespace EngineState

/-- The state of an engine that was just opened. -/
def ofTable (caps : Capabilities) : EngineState := ⟨caps, caps.config, caps.defaults, none⟩

/-- The pending error, under another number. -/
def lastError (s : EngineState) (regexId : Int) : Except EngineError PatternError :=
  match s.pending with
  | some e => .ok { e with regexId }
  | none => .error (.noPendingError regexId)

def configFor (s : EngineState) (chain : Option Bool) : MatchConfig :=
  match chain with
  | some b => s.config.set (.chain b)
  | none => s.config

def recordToTest (s : EngineState) (regex : List Char) (modifiers : Option (List Char))
    (delimiters : Option DelimiterPair) : PatternRecord :=
  .toTest 0 regex (modifiers.getD s.defaults.modifiers) (delimiters.getD s.defaults.delimiters)

end EngineState

structure Engine (σ : Type) where
  state : EngineState
  backend : Backend σ

def HandlerError.toTransport (e : HandlerError) : TransportFault :=
  match e.loss? with
  | none => .failed e.message
  | some loss => .lost loss

/-- A transport that leads to a handler in this process. -/
def Handler.loopback {σ : Type} (h : Handler) : Transport σ := fun request =>
  pure ((h.handle request).mapError HandlerError.toTransport)

namespace Engine

variable {σ : Type}

def withDialect (caps : Capabilities) (dialect : Dialect) : Engine σ :=
  ⟨.ofTable caps, .inProcess dialect⟩

def ofLocalTable (caps : Capabilities) : Except ConfigError (Engine σ) :=
  if caps.access ≠ .inProcess then .error (.accessMismatch caps.id)
  else match caps.dialect.dialect? with
    | some dialect => .ok (withDialect caps dialect)
    | none => .error (.unsupportedDialect caps.id caps.dialect)

def ofRemoteTable (caps : Capabilities) (transport : Transport σ) :
    Except ConfigError (Engine σ) :=
  if caps.access ≠ .remote then .error (.accessMismatch caps.id)
  else .ok ⟨.ofTable caps, .remote transport⟩

/-- The engine of any table. A remote one is answered in this process. -/
def ofTable (caps : Capabilities) : Except ConfigError (Engine σ) :=
  match caps.access with
  | .inProcess => ofLocalTable caps
  | .remote => ofRemoteTable caps (Handler.ofTable caps).loopback

def setSetting (e : Engine σ) (update : SettingUpdate) : Engine σ :=
  { e with state.config := e.state.config.set update }

def applySettings (e : Engine σ) (settings : MatchSettings) : Engine σ :=
  { e with state.config := e.state.config.apply settings }

def setDefaults (e : Engine σ) (defaults : Defaults) : Engine σ :=
  { e with state.defaults := defaults }

end Engine

end RegexGateway
