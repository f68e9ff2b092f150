import DatePattern.Text.Printable

/-! Texts and bytes between quotes, with escapes, on one line. -/
namespace DatePattern

/-- A number in lower-case hexadecimal, padded with zeros to a width. -/
def hexDigits (width n : Nat) : List Char :=
  let digits := Nat.toDigits 16 n
  List.replicate (width - digits.length) '0' ++ digits

/-- The single quote, except around a text that holds single quotes and no double one. -/
def quoteFor (cs : List Char) : Char :=
  if cs.contains '\x27' && !cs.contains '"' then '"' else '\x27'

/-- A character between quotes of the given kind. The quote and the backslash are escaped, the
three usual line controls have names, and what does not print is written by its code. -/
def escapeChar (quote c : Char) : List Char :=
  if c = quote ∨ c = '\\' then ['\\', c]
  else if c = '\n' then ['\\', 'n']
  else if c = '\r' then ['\\', 'r']
  else if c = '\t' then ['\\', 't']
  else if isPrintable c then [c]
  else if c.toNat < 0x100 then '\\' :: 'x' :: hexDigits 2 c.toNat
  else if c.toNat < 0x10000 then '\\' :: 'u' :: hexDigits 4 c.toNat
  else '\\' :: 'U' :: hexDigits 8 c.toNat

def quoteText (s : String) : String :=
  let quote := quoteFor s.toList
  String.ofList (quote :: (s.toList.flatMap (escapeChar quote) ++ [quote]))

/-- A byte between quotes: as a character when it is printable ASCII, else by its code. -/
def escapeByte (quote : Char) (b : UInt8) : List Char :=
  if b.toNat < 0x7f then escapeChar quote (Char.ofNat b.toNat)
  else '\\' :: 'x' :: hexDigits 2 b.toNat

/-- Bytes between quotes, marked as bytes. -/
def quoteBytes (bs : List UInt8) : String :=
  let quote := quoteFor (bs.map fun b => Char.ofNat b.toNat)
  String.ofList ('b' :: quote :: (bs.flatMap (escapeByte quote) ++ [quote]))

end DatePattern
