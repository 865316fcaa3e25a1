import DbClient.Text.Hex
import DbClient.Text.Printable

/-! Quoted text for diagnostics: a text or a character between quotes, with everything that
would not survive a look at the printed line written as an escape. -/

namespace DbClient.Text

/-- How a character is written between the quotes `quote`: the four named escapes, a
backslash before the quote and before itself, printable characters as themselves, and all
others by their code point. -/
def escapeChar (quote c : Char) : List Char :=
  if c = '\x00' then ['\\', '0']
  else if c = '\t' then ['\\', 't']
  else if c = '\r' then ['\\', 'r']
  else if c = '\n' then ['\\', 'n']
  else if c = '\\' ∨ c = quote then ['\\', c]
  else if isPrintable c then [c]
  else ['\\', 'u', '\x7b'] ++ hexDigits c.toNat ++ ['\x7d']

def quote (text : String) : String :=
  .ofList ('"' :: text.toList.flatMap (escapeChar '"') ++ ['"'])

def quoteChar (c : Char) : String :=
  .ofList ('\'' :: escapeChar '\'' c ++ ['\''])

/-- Items in square brackets, separated by a comma and a space. -/
def bracketed (items : List String) : String :=
  "[" ++ ", ".intercalate items ++ "]"

end DbClient.Text
