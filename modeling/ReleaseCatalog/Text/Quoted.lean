import ReleaseCatalog.Text.Basic
import ReleaseCatalog.Unicode.Printable

/-!
# Quoted texts

How the journal writes a text so that its ends and its invisible characters
can be seen.  The quote is the apostrophe, unless the text has an apostrophe
and no double quote.  The quote, the backslash and every character that is not
printable are escaped: the line feed, the carriage return and the tab by a
letter, the others by their code point in two, four or eight hexadecimal
digits.
-/

namespace ReleaseCatalog.Text.Quoted

/-- The apostrophe. -/
def apostrophe : Char := '\x27'

/-- The double quote. -/
def doubleQuote : Char := '\x22'

/-- The quote a text is written in. -/
def quoteFor (t : Text) : Char :=
  if t.contains apostrophe && !t.contains doubleQuote then doubleQuote else apostrophe

/-- A number in small hexadecimal digits, filled up with zeros to a width. -/
def hexadecimal (width n : Nat) : Text :=
  let digits := Nat.toDigits 16 n
  List.replicate (width - digits.length) '0' ++ digits

/-- One character inside quotes. -/
def escape (quote c : Char) : Text :=
  if c = quote ∨ c = '\\' then ['\\', c]
  else if c = '\n' then ['\\', 'n']
  else if c = '\r' then ['\\', 'r']
  else if c = '\t' then ['\\', 't']
  else if Unicode.isPrintable c then [c]
  else if c.toNat < 0x100 then '\\' :: 'x' :: hexadecimal 2 c.toNat
  else if c.toNat < 0x10000 then '\\' :: 'u' :: hexadecimal 4 c.toNat
  else '\\' :: 'U' :: hexadecimal 8 c.toNat

/-- A text in quotes. -/
def quote (t : Text) : Text :=
  let q := quoteFor t
  [q] ++ t.flatMap (escape q) ++ [q]

/-- A text in quotes, or the word that stands for no text. -/
def quote? : Option Text → Text
  | some t => quote t
  | none => "None".toList

/-- A list of texts in quotes. -/
def quoteList (ts : List Text) : Text := ['['] ++ join [',', ' '] (ts.map quote) ++ [']']

end ReleaseCatalog.Text.Quoted
