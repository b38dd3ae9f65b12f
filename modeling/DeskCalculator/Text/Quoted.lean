import DeskCalculator.Text.Printable

/-!
# Quoted text

How a text is shown inside a message: between quotes, with what cannot be
printed written as escapes.

* `quoted` — the quoted text.  Single quotes are used unless the text has a single
  quote and no double quote.
* `quotedBytes` — bytes as a quoted text.
* `hexText` — hexadecimal digits to a fixed width, for the escapes.
* `quotedList` — a list of quoted texts between brackets.
-/

namespace DeskCalculator

/-! ## Escapes -/

/-- A hexadecimal digit in lower case. -/
def hexDigit (d : Nat) : Char :=
  if d < 10 then Char.ofNat (48 + d) else Char.ofNat (87 + d)

/-- The last `width` hexadecimal digits of a number. -/
def hexText : Nat → Nat → List Char
  | 0, _ => []
  | width + 1, n => hexText width (n / 16) ++ [hexDigit (n % 16)]

/-- One character between quotes of the given kind: the quote and the backslash take a
backslash, line feed, carriage return and tab have letters, and what cannot be printed is
written by its code point in two, four or eight hexadecimal digits. -/
def quotedChar (quote : Char) (c : Char) : List Char :=
  if c = quote || c = '\\' then ['\\', c]
  else if c = '\n' then ['\\', 'n']
  else if c = '\r' then ['\\', 'r']
  else if c = '\t' then ['\\', 't']
  else if isPrintable c then [c]
  else if c.toNat < 0x100 then '\\' :: 'x' :: hexText 2 c.toNat
  else if c.toNat < 0x10000 then '\\' :: 'u' :: hexText 4 c.toNat
  else '\\' :: 'U' :: hexText 8 c.toNat

/-! ## Whole texts -/

/-- The quote that surrounds a text. -/
def quoteFor (s : List Char) : Char :=
  if s.contains '\'' && !s.contains '"' then '"' else '\''

/-- A text between quotes. -/
def quoted (s : List Char) : List Char :=
  quoteFor s :: (s.flatMap (quotedChar (quoteFor s)) ++ [quoteFor s])

/-- One byte between quotes of the given kind: what is not printable in ASCII takes two
hexadecimal digits, unless it has a letter. -/
def quotedByte (quote : Char) (octet : Nat) : List Char :=
  if octet < 0x7F then quotedChar quote (Char.ofNat octet) else '\\' :: 'x' :: hexText 2 octet

/-- Bytes between quotes, after the letter that says that they are bytes. -/
def quotedBytes (octets : List Nat) : List Char :=
  let quote := quoteFor (octets.map Char.ofNat)
  'b' :: quote :: (octets.flatMap (quotedByte quote) ++ [quote])

/-- Join texts with a separator between neighbours. -/
def joinWith {α : Type} (separator : List α) : List (List α) → List α
  | [] => []
  | [s] => s
  | s :: rest => s ++ separator ++ joinWith separator rest

/-- A list of texts, each quoted, between square brackets. -/
def quotedList (items : List (List Char)) : List Char :=
  '[' :: (joinWith [',', ' '] (items.map quoted) ++ [']'])

end DeskCalculator
