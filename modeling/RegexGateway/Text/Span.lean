namespace RegexGateway

structure Span where
  start : Nat
  stop : Nat
  deriving DecidableEq, Repr, Inhabited

end RegexGateway
