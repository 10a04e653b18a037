namespace RegexGateway

namespace Backtrack

inductive ParseError where
  | trailingBackslash
  | groupName
  | unicodeRequired
  | unfinished
  | closingParenthesis
  | emptyConditional
  | backReference
  | charClass
  | codePoint
  | escape (spelling : String)
  | groupNameReference (name : String)
  | hexEscape
  | unclosedParenthesis
  | nesting
  | repeatTarget
  | unclosedProperty
  | unknownFlag (spelling : String)
  deriving DecidableEq, Repr

namespace ParseError

def message : ParseError → String
  | trailingBackslash => "Backslash without following character"
  | groupName => "Could not parse group name"
  | unicodeRequired => "Disabling Unicode not supported"
  | unfinished => "General parsing error: end of string not reached"
  | closingParenthesis => "General parsing error: expected close paren"
  | emptyConditional =>
    "General parsing error: expected conditional to be a backreference or at least an " ++
      "expression for when the condition is true"
  | backReference => "Invalid back reference"
  | charClass => "Invalid character class"
  | codePoint => "Invalid codepoint for hex or unicode escape"
  | escape spelling => "Invalid escape: " ++ spelling
  | groupNameReference name => "Invalid group name in back reference: " ++ name
  | hexEscape => "Invalid hex escape"
  | unclosedParenthesis => "Opening parenthesis without closing parenthesis"
  | nesting => "Pattern too deeply nested"
  | repeatTarget => "Target of repeat operator is invalid"
  | unclosedProperty => "Unicode escape not closed"
  | unknownFlag spelling => "Unknown group flag: " ++ spelling

end ParseError

inductive PlanError where
  | backReference
  | lookBehindSize
  | numberedReference
  | pieceRefused
  | pieceTooLarge
  deriving DecidableEq, Repr

namespace PlanError

def message : PlanError → String
  | backReference => "Invalid back reference"
  | lookBehindSize => "Look-behind assertion without constant size"
  | numberedReference =>
    "Numbered backref/call not allowed because named group was used, use a named backref instead"
  | pieceRefused => "Regex error: error parsing pattern 0"
  | pieceTooLarge => "Regex error: error building NFA"

end PlanError

/-- Why a pattern cannot be used. Places are byte offsets. -/
inductive PatternFault where
  | parse (pos : Nat) (error : ParseError)
  | plan (error : PlanError)
  deriving DecidableEq, Repr

def PatternFault.message : PatternFault → String
  | parse pos error => "Parsing error at position " ++ toString pos ++ ": " ++ error.message
  | plan error => "Error compiling regex: " ++ error.message

end Backtrack

end RegexGateway
