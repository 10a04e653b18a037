namespace RegexGateway

namespace CommandLine

inductive Switch where
  | engine
  | enginesFile
  | logFormat
  | modifiers
  | delimiters
  | regex
  | replacement
  | noChain
  | showBlanks
  | json
  | maxPatterns
  | maxSamples
  | maxSampleLength
  | maxTotalLength
  | pretty
  deriving DecidableEq, Repr

namespace Switch

def long : Switch → String
  | engine => "engine"
  | enginesFile => "engines"
  | logFormat => "log-format"
  | modifiers => "modifiers"
  | delimiters => "delimiters"
  | regex => "regex"
  | replacement => "replace"
  | noChain => "no-chain"
  | showBlanks => "show-white-space"
  | json => "json"
  | maxPatterns => "max-regexes"
  | maxSamples => "max-samples"
  | maxSampleLength => "max-sample-length"
  | maxTotalLength => "max-total-sample-length"
  | pretty => "pretty"

def short? : Switch → Option Char
  | engine => some 'e'
  | modifiers => some 'm'
  | delimiters => some 'd'
  | regex => some 'r'
  | replacement => some 'R'
  | showBlanks => some 'w'
  | _ => none

def takesValue : Switch → Bool
  | noChain | showBlanks | json | pretty => false
  | _ => true

def everywhere : List Switch := [engine, enginesFile, logFormat]

end Switch

inductive UsageError where
  | unknown (argument : String)
  | valueMissing (switch : Switch)
  | valueUnwanted (switch : Switch)
  | badValue (switch : Switch) (value : String)
  | repeated (switch : Switch)
  | missing (name : String)
  deriving DecidableEq, Repr

def UsageError.message : UsageError → String
  | unknown argument => "unexpected argument '" ++ argument ++ "' found"
  | valueMissing s => "a value is required for '--" ++ s.long ++ "' but none was supplied"
  | valueUnwanted s => "no value can be given for '--" ++ s.long ++ "'"
  | badValue s value => "invalid value '" ++ value ++ "' for '--" ++ s.long ++ "'"
  | repeated s => "the argument '--" ++ s.long ++ "' cannot be used multiple times"
  | missing name => "'" ++ name ++ "' was not provided"

/-- A switch with its value, or a word. A switch without a value has an empty one. -/
inductive Item where
  | switch (s : Switch) (value : String)
  | word (text : String)
  deriving DecidableEq, Repr

def isSwitch (argument : String) : Bool :=
  match argument.toList with
  | '-' :: _ :: _ => true
  | _ => false

/-- Reads switches of one letter that are written together. The first that takes a value takes what
is left, or awaits the next argument. -/
def readLetters (known : List Switch) :
    List Char → Except UsageError (List Item × Option Switch)
  | [] => .ok ([], none)
  | c :: rest => do
    let some s := known.find? fun s => s.short? = some c
      | throw (.unknown (String.ofList ['-', c]))
    if s.takesValue then
      if rest.isEmpty then return ([], some s)
      let value := if rest.head? = some '=' then rest.drop 1 else rest
      return ([.switch s (String.ofList value)], none)
    let (items, pending) ← readLetters known rest
    return (.switch s "" :: items, pending)

def readLong (known : List Switch) (text : List Char) :
    Except UsageError (List Item × Option Switch) := do
  let name := text.takeWhile (· ≠ '=')
  let some s := known.find? fun s => s.long = String.ofList name
    | throw (.unknown (String.ofList ('-' :: '-' :: name)))
  match text.drop name.length with
  | [] => return if s.takesValue then ([], some s) else ([.switch s ""], none)
  | _ :: value =>
    if !s.takesValue then throw (.valueUnwanted s)
    return ([.switch s (String.ofList value)], none)

def readArgument (known : List Switch) (argument : String) :
    Except UsageError (List Item × Option Switch) :=
  match argument.toList with
  | '-' :: '-' :: text => readLong known text
  | '-' :: c :: rest => readLetters known (c :: rest)
  | _ => .ok ([.word argument], none)

/-- Reads arguments. Behind two dashes alone all are words. -/
def readItems (known : List Switch) : List String → Except UsageError (List Item)
  | [] => .ok []
  | argument :: rest => do
    if argument = "--" then return rest.map .word
    let (items, pending) ← readArgument known argument
    match pending, rest with
    | none, rest => return items ++ (← readItems known rest)
    | some s, [] => throw (.valueMissing s)
    | some s, value :: rest =>
      if isSwitch value then throw (.valueMissing s)
      return items ++ .switch s value :: (← readItems known rest)

def splitCommand (known : List Switch) : List String → Except UsageError (List String × List String)
  | [] => .ok ([], [])
  | argument :: rest => do
    if !isSwitch argument then return ([], argument :: rest)
    let (_, pending) ← readArgument known argument
    match pending, rest with
    | some s, [] => throw (.valueMissing s)
    | some _, value :: rest =>
      let (before, after) ← splitCommand known rest
      return (argument :: value :: before, after)
    | none, rest =>
      let (before, after) ← splitCommand known rest
      return (argument :: before, after)

end CommandLine

end RegexGateway
