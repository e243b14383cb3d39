import WebBaseline.Text.Printable

/-!
Texts quoted in messages. The quotes are single unless the text holds a single quote and no double
one. The quote, the backslash and characters that do not print are escaped.
-/

namespace WebBaseline.Text.Quoted

/-- How one character is written between quotes `q`. -/
def encodeChar (q c : Char) : Text :=
  if c = q || c = '\\' then ['\\', c]
  else if c = '\n' then "\\n"
  else if c = '\r' then "\\r"
  else if c = '\t' then "\\t"
  else if isPrintable c then [c]
  else if c.toNat < 0x100 then "\\x" ++ hexPadded 2 c.toNat
  else if c.toNat < 0x10000 then "\\u" ++ hexPadded 4 c.toNat
  else "\\U" ++ hexPadded 8 c.toNat

/-- The quote that is chosen for `s`. -/
def quoteFor (s : Text) : Char :=
  if s.contains '\'' && !s.contains '"' then '"' else '\''

def encode (s : Text) : Text :=
  let q := quoteFor s
  q :: (s.flatMap (encodeChar q) ++ [q])

end WebBaseline.Text.Quoted
