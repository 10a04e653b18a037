import RegexGateway.Table.Capabilities

namespace RegexGateway

/-- What is wrong with a list of engine tables as a whole, or with an entry that contradicts
itself. -/
inductive TableFault where
  | globalNotAllowed (engine : String) (modifier : Char)
  | duplicateId (id : String)
  | unreadable (error : Json.DecodeError)

def TableFault.message : TableFault → String
  | globalNotAllowed engine c =>
    "engine `" ++ engine ++ "` names `" ++ c.toString ++
      "` as its global modifier but does not allow it"
  | duplicateId id => "duplicate engine id `" ++ id ++ "`"
  | unreadable e => e.message

inductive ConfigError where
  | nonAlphabeticModifier (label : ModifiersLabel) (modifiers : List Char)
  | invalidDefaults (engine : String) (source : ValidationError)
  | unknownEngine (id : String)
  | unsupportedDialect (engine : String) (dialect : DialectKind)
  | accessMismatch (engine : String)
  | table (fault : TableFault)

def ConfigError.message : ConfigError → String
  | nonAlphabeticModifier label modifiers =>
    "all " ++ label.name ++ " must be alphabetical characters. " ++ Text.charListing modifiers ++
      " " ++ verb modifiers.length ++ " not valid"
  | invalidDefaults engine source =>
    "engine `" ++ engine ++ "` has invalid defaults: " ++ source.message
  | unknownEngine id => "unknown engine `" ++ id ++ "`"
  | unsupportedDialect engine dialect =>
    "engine `" ++ engine ++ "` needs the `" ++ dialect.name ++
      "` dialect, which is not available in this build"
  | accessMismatch engine =>
    "engine `" ++ engine ++ "` cannot be opened with this access mode"
  | table fault => "invalid engine table: " ++ fault.message

namespace Capabilities

/-- Checks a table. Its modifiers come first, then the global one, then the defaults, of which the
delimiters count only if patterns have to have some. -/
def ofSpec (spec : EngineSpec) : Except ConfigError Capabilities := do
  let duds := spec.allowedModifiers.filter fun c => !c.isAlpha
  if !duds.isEmpty then throw (.nonAlphabeticModifier spec.label duds)
  match spec.globalModifier with
  | some c => if c ∉ spec.allowedModifiers then throw (.table (.globalNotAllowed spec.id c))
  | none => pure ()
  let caps : Capabilities := {
    id := spec.id
    name := spec.name
    docsUrl := spec.docsUrl
    apiUrl := spec.apiUrl
    allowedDelimiters := spec.allowedDelimiters
    allowedPairs := spec.allowedPairs
    allowedModifiers := distinct spec.allowedModifiers
    label := spec.label
    globalModifier := spec.globalModifier
    defaults := ⟨spec.defaultDelimiters, []⟩
    delimiterRequired := spec.delimiterRequired
    access := spec.access
    dialect := spec.dialect
    config := spec.config.normalize }
  let modifiers ← (caps.validateModifiers spec.defaultModifiers).mapError
    (.invalidDefaults spec.id)
  if caps.delimiterRequired then
    let _ ← (caps.validateDelimiters spec.defaultDelimiters).mapError (.invalidDefaults spec.id)
  return { caps with defaults.modifiers := modifiers }

end Capabilities

/-- Engines with different ids. -/
structure Registry where
  engines : List Capabilities
  deriving DecidableEq, Repr

namespace Registry

/-- Adds the engines of tables to a list. The first table that cannot be added is the one to
blame. -/
def extend (engines : List Capabilities) : List EngineSpec → Except ConfigError (List Capabilities)
  | [] => .ok engines
  | spec :: rest => do
    if engines.any fun caps => caps.id = spec.id then throw (.table (.duplicateId spec.id))
    extend (engines ++ [← Capabilities.ofSpec spec]) rest

def ofSpecs (specs : List EngineSpec) : Except ConfigError Registry := do
  return ⟨← extend [] specs⟩

def ofJson (text : String) : Except ConfigError Registry := do
  ofSpecs (← (EngineSpec.codec.list.ofString text).mapError fun e => .table (.unreadable e))

def get? (registry : Registry) (id : String) : Option Capabilities :=
  registry.engines.find? fun caps => caps.id = id

def require (registry : Registry) (id : String) : Except ConfigError Capabilities :=
  match registry.get? id with
  | some caps => .ok caps
  | none => .error (.unknownEngine id)

end Registry

end RegexGateway
