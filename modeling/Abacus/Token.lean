/-!
# Tokens

A line is read as a sequence of *tokens*.  A token has a kind, the text it was
read from, and the bytes of the line that this text takes, as a half-open
range.  The last token of every line is the *end mark*: it has no text, and its
range is the one byte after the line.

A character that begins no token of the language is not dropped.  It becomes a
token of kind `illegal`, so that what is wrong with it is said in one place, by
the reader of expressions.
-/

namespace Abacus

/-- The bytes from `start` up to, and without, `stop`. -/
structure Span where
  /-- The offset of the first byte. -/
  start : Nat
  /-- The offset after the last byte. -/
  stop : Nat
deriving DecidableEq, Repr

namespace Span

/-- The range of the one byte at an offset. -/
def single (offset : Nat) : Span :=
  ⟨offset, offset + 1⟩

/-- The range that lies `distance` bytes further on. -/
def shift (distance : Nat) (s : Span) : Span :=
  ⟨s.start + distance, s.stop + distance⟩

end Span

/-- What a token is. -/
inductive Token.Kind
  /-- One character that begins no other token. -/
  | illegal
  /-- The end of the line. -/
  | eof
  /-- An integer literal, whether or not its digits suit its base. -/
  | number
  /-- The operator `+`. -/
  | plus
  /-- The operator `-`, between two operands or before one. -/
  | minus
  /-- The operator `*`. -/
  | times
  /-- The operator `/`. -/
  | divide
  /-- An opening parenthesis. -/
  | opening
  /-- A closing parenthesis. -/
  | closing
deriving DecidableEq, Repr

namespace Token.Kind

/-- The name by which messages call a kind of token. -/
def name : Kind → String
  | illegal => "ILLEGAL"
  | eof => "EOF"
  | number => "NUMBER"
  | plus => "+"
  | minus => "-"
  | times => "*"
  | divide => "/"
  | opening => "("
  | closing => ")"

/-- The kind of a token that is this one character whatever follows it. -/
def ofSymbol? : Char → Option Kind
  | '+' => some plus
  | '-' => some minus
  | '*' => some times
  | '/' => some divide
  | '(' => some opening
  | ')' => some closing
  | _ => none

end Token.Kind

/-- A token of a line. -/
structure Token where
  /-- What the token is. -/
  kind : Token.Kind
  /-- The characters it was read from. -/
  text : String
  /-- The bytes of the line that they take. -/
  span : Span
deriving DecidableEq, Repr

namespace Token

/-- The end mark of a line of `length` bytes. -/
def mark (length : Nat) : Token :=
  ⟨.eof, "", .single length⟩

end Token

end Abacus
