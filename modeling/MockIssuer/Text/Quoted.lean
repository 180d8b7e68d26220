import MockIssuer.Text.Hex
import MockIssuer.Text.Printable

/-!
# Quoted text

A text between quotes in which every character that cannot be shown is escaped. Single quotes
enclose it unless it holds a single quote and no double quote. Code points are escaped with the
shortest of two, four and eight hexadecimal digits.
-/
namespace MockIssuer.Text

def quoteFor (text : List Char) : Char :=
  if text.contains '\'' && !text.contains '"' then '"' else '\''

/-- The escape of a character by its code point. -/
def escapeWide (c : Char) : List Char :=
  if c.toNat < 0x100 then '\\' :: 'x' :: hexDigits 2 c.toNat
  else if c.toNat < 0x10000 then '\\' :: 'u' :: hexDigits 4 c.toNat
  else '\\' :: 'U' :: hexDigits 8 c.toNat

def escapeChar (quote c : Char) : List Char :=
  if c == quote || c == '\\' then ['\\', c]
  else if c == '\n' then ['\\', 'n']
  else if c == '\r' then ['\\', 'r']
  else if c == '\t' then ['\\', 't']
  else if isPrintable c then [c]
  else escapeWide c

/-- The quoted form of a text. -/
def quote (text : List Char) : List Char :=
  let q := quoteFor text
  q :: text.flatMap (escapeChar q) ++ [q]

end MockIssuer.Text

/-- The quoted form of a string. -/
def MockIssuer.quoted (text : String) : String :=
  String.ofList (Text.quote text.toList)
