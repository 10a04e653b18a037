import RegexGateway.Dialect.Basic
import RegexGateway.Table.Config
import RegexGateway.Table.Delimiters

namespace RegexGateway

inductive Access where
  | inProcess
  | remote
  deriving DecidableEq, Repr

inductive ModifiersLabel where
  | flags
  | modifiers
  deriving DecidableEq, Repr

structure EngineSpec where
  id : String
  name : String
  docsUrl : String
  apiUrl : String
  allowedDelimiters : List Char
  /-- Pairs of different delimiters. -/
  allowedPairs : List DelimiterPair
  allowedModifiers : List Char
  label : ModifiersLabel
  /-- The modifier that asks for every match. An engine without one always finds every match. -/
  globalModifier : Option Char
  defaultDelimiters : DelimiterPair
  defaultModifiers : List Char
  delimiterRequired : Bool
  access : Access
  dialect : DialectKind
  config : MatchConfig
  deriving DecidableEq, Repr

def Access.name : Access → String
  | inProcess => "local"
  | remote => "remote"

def ModifiersLabel.name : ModifiersLabel → String
  | flags => "flags"
  | modifiers => "modifiers"

open Json

def Access.codec : Codec Access := .named [.inProcess, .remote] name

def ModifiersLabel.codec : Codec ModifiersLabel := .named [.flags, .modifiers] name

def DialectKind.codec : Codec DialectKind := .named [.standard, .fancy, .pcre2] name

namespace EngineSpec

def codec : Codec EngineSpec :=
  (Shape.codec (.cons (.required "id" .string)
    (.cons (.required "name" .string)
    (.cons (.default "docsURL" .string "")
    (.cons (.default "apiURL" .string "")
    (.cons (.default "allowedDelimiters" (.list .char) [])
    (.cons (.default "allowedPairedDelimiters" (.list DelimiterPair.codec) [])
    (.cons (.required "allowedModifiers" (.list .char))
    (.cons (.required "modifiersLabel" ModifiersLabel.codec)
    (.cons (.default "globalModifier" Codec.char.nullable none)
    (.cons (.required "defaultDelimiters" DelimiterPair.codec)
    (.cons (.default "defaultModifiers" .text [])
    (.cons (.default "delimiterRequired" .bool false)
    (.cons (.required "access" Access.codec)
    (.cons (.required "dialect" DialectKind.codec)
    (.cons (.required "matchConfig" MatchConfig.codec) .nil))))))))))))))) "EngineSpec").along
    (fun s => (s.id, s.name, s.docsUrl, s.apiUrl, s.allowedDelimiters, s.allowedPairs,
      s.allowedModifiers, s.label, s.globalModifier, s.defaultDelimiters, s.defaultModifiers,
      s.delimiterRequired, s.access, s.dialect, s.config, ()))
    (fun (id, name, docsUrl, apiUrl, allowedDelimiters, allowedPairs, allowedModifiers, label,
      globalModifier, defaultDelimiters, defaultModifiers, delimiterRequired, access, dialect,
      config, _) =>
      ⟨id, name, docsUrl, apiUrl, allowedDelimiters, allowedPairs, allowedModifiers, label,
        globalModifier, defaultDelimiters, defaultModifiers, delimiterRequired, access, dialect,
        config⟩)

end EngineSpec

end RegexGateway
