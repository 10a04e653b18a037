import RegexGateway.Dialect.Fancy
import RegexGateway.Dialect.Standard

namespace RegexGateway

namespace DialectKind

def dialect? : DialectKind → Option Dialect
  | standard => some .standard
  | fancy => some .fancy
  | pcre2 => none

/-- The dialect of a kind, or the one that comes closest to it. -/
def nearest (kind : DialectKind) : Dialect := kind.dialect?.getD .fancy

end DialectKind

end RegexGateway
