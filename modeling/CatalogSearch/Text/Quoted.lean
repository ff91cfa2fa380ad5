import CatalogSearch.Text.Printable

/-!
# Quoted text

A text between quotes, as messages show it.  Single quotes are used unless the text has single
quotes and no double ones.  The quote in use and the backslash are escaped, and what is not
printable is shown by name or by number.
-/

namespace CatalogSearch.Text

def hexDigit (n : Nat) : Char :=
  Nat.digitChar (n % 16)

def hexDigits : Nat -> Nat -> List Char
  | 0, _ => []
  | width + 1, n => hexDigits width (n / 16) ++ [hexDigit n]

def quoteFor (text : List Char) : Char :=
  if text.contains '\x27' && !text.contains '\x22' then '\x22' else '\x27'

def quotedChar (quote c : Char) : List Char :=
  if c = quote ∨ c = '\x5c' then ['\x5c', c]
  else if c = '\n' then ['\x5c', 'n']
  else if c = '\r' then ['\x5c', 'r']
  else if c = '\t' then ['\x5c', 't']
  else if isPrintable c then [c]
  else if c.toNat < 0x100 then '\x5c' :: 'x' :: hexDigits 2 c.toNat
  else if c.toNat < 0x10000 then '\x5c' :: 'u' :: hexDigits 4 c.toNat
  else '\x5c' :: 'U' :: hexDigits 8 c.toNat

def quoted (text : List Char) : List Char :=
  let quote := quoteFor text
  quote :: text.flatMap (quotedChar quote) ++ [quote]

end CatalogSearch.Text
