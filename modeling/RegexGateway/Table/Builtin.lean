import RegexGateway.Table.Registry

namespace RegexGateway

namespace EngineSpec

def inProcessConfig : MatchConfig := .ofLimits ⟨10000, 10000, 100000, true⟩

def standard : EngineSpec where
  id := "rust-regex"
  name := "Rust regex"
  docsUrl := "https://docs.rs/regex/latest/regex/#syntax"
  apiUrl := ""
  allowedDelimiters := ['/']
  allowedPairs := []
  allowedModifiers := "gimsuxU".toList
  label := .flags
  globalModifier := some 'g'
  defaultDelimiters := .symmetric '/'
  defaultModifiers := "ig".toList
  delimiterRequired := false
  access := .inProcess
  dialect := .standard
  config := inProcessConfig

def fancy : EngineSpec where
  id := "fancy-regex"
  name := "Fancy regex"
  docsUrl := "https://docs.rs/fancy-regex/latest/fancy_regex/#syntax"
  apiUrl := ""
  allowedDelimiters := ['/']
  allowedPairs := []
  allowedModifiers := "gimsx".toList
  label := .flags
  globalModifier := some 'g'
  defaultDelimiters := .symmetric '/'
  defaultModifiers := "ig".toList
  delimiterRequired := false
  access := .inProcess
  dialect := .fancy
  config := inProcessConfig

def pcre : EngineSpec where
  id := "pcre"
  name := "PCRE"
  docsUrl := "https://www.pcre.org/current/doc/html/pcre2pattern.html"
  apiUrl := ""
  allowedDelimiters := "`~!@#$%^&*()_-+=\x7b\x7d|[]:;\"'<>?,./".toList
  allowedPairs := [⟨'(', ')'⟩, ⟨'<', '>'⟩, ⟨'[', ']'⟩, ⟨'\x7b', '\x7d'⟩]
  allowedModifiers := "imsxADSUXJu".toList
  label := .modifiers
  globalModifier := none
  defaultDelimiters := .symmetric '\x60'
  defaultModifiers := "is".toList
  delimiterRequired := true
  access := .remote
  dialect := .pcre2
  config := .ofLimits ⟨500, 500, 300, false⟩

end EngineSpec

namespace Registry

def builtin : Except ConfigError Registry := ofSpecs [.standard, .fancy, .pcre]

end Registry

end RegexGateway
