import CallSignaling.Text.Utf8

/-!
# Faults — what is wrong with a JSON text, and where

A fault keeps the bytes that were not read when it was noticed; `Fault.message` turns that into a
line and a column of the whole text.  Columns count bytes.
-/

namespace CallSignaling.Json

/-- What is wrong. -/
inductive Problem where
  | eofValue
  | eofString
  | eofList
  | eofObject
  | expectedValue
  | expectedIdent
  | expectedColon
  | expectedListCommaOrEnd
  | expectedObjectCommaOrEnd
  | keyMustBeString
  | trailingComma
  | trailingCharacters
  | recursionLimit
  | invalidNumber
  | numberOutOfRange
  | invalidEscape
  | invalidCodePoint
  | controlCharacter
  | loneLeadingSurrogate
  | unexpectedEndOfHexEscape
  /-- The text is JSON but not of the wanted shape. -/
  | shape (message : String)
deriving DecidableEq, Repr

def Problem.message : Problem → String
  | .eofValue => "EOF while parsing a value"
  | .eofString => "EOF while parsing a string"
  | .eofList => "EOF while parsing a list"
  | .eofObject => "EOF while parsing an object"
  | .expectedValue => "expected value"
  | .expectedIdent => "expected ident"
  | .expectedColon => "expected `:`"
  | .expectedListCommaOrEnd => "expected `,` or `]`"
  | .expectedObjectCommaOrEnd => "expected `,` or `\x7d`"
  | .keyMustBeString => "key must be a string"
  | .trailingComma => "trailing comma"
  | .trailingCharacters => "trailing characters"
  | .recursionLimit => "recursion limit exceeded"
  | .invalidNumber => "invalid number"
  | .numberOutOfRange => "number out of range"
  | .invalidEscape => "invalid escape"
  | .invalidCodePoint => "invalid unicode code point"
  | .controlCharacter => "control character (\\u0000-\\u001F) found while parsing a string"
  | .loneLeadingSurrogate => "lone leading surrogate in hex escape"
  | .unexpectedEndOfHexEscape => "unexpected end of hex escape"
  | .shape message => message

/-- A problem with the bytes that follow the place where it was noticed. -/
structure Fault where
  problem : Problem
  rest : Bytes
deriving DecidableEq, Repr

namespace Fault

/-- A problem with the byte that comes next, which is counted as read. -/
def next (problem : Problem) (s : Bytes) : Fault := ⟨problem, s.drop 1⟩

/-- What had been read of the text. -/
def consumed (f : Fault) (text : Bytes) : Bytes := text.take (text.length - f.rest.length)

/-- One more than the line ends read. -/
def line (f : Fault) (text : Bytes) : Nat := 1 + (f.consumed text).count 0x0A

/-- The bytes read since the last line end. -/
def column (f : Fault) (text : Bytes) : Nat :=
  ((f.consumed text).reverse.takeWhile (· != 0x0A)).length

def message (f : Fault) (text : Bytes) : String :=
  f.problem.message ++ " at line " ++ toString (f.line text) ++ " column "
    ++ toString (f.column text)

end Fault

/-- A reading step: a value with the bytes after it, or a fault. -/
abbrev Outcome (α : Type) := Except Fault (α × Bytes)

end CallSignaling.Json
