import TaintFlow.Text.Invisible

/-!
# Quoted text

Two ways of quoting a text.  `Quoted.json` is the form of a JSON string: only the quote, the
backslash and the control characters below U+0020 are escaped.  `Quoted.literal` is the form in
which names are shown to a reader of a report: there every character that would not be visible is
escaped as well.
-/

namespace TaintFlow.Quoted

/-- The hexadecimal digits of a number, in lower case and without leading zeros. -/
def hex (n : Nat) : List Char := Nat.toDigits 16 n

/-- A JSON escape: a short form where there is one, else four hexadecimal digits. -/
def jsonChar (c : Char) : List Char :=
  if c = '"' then ['\\', '"']
  else if c = '\\' then ['\\', '\\']
  else if c = '\n' then ['\\', 'n']
  else if c = '\r' then ['\\', 'r']
  else if c = '\t' then ['\\', 't']
  else if c.toNat = 8 then ['\\', 'b']
  else if c.toNat = 12 then ['\\', 'f']
  else if c.toNat < 16 then ['\\', 'u', '0', '0', '0'] ++ hex c.toNat
  else if c.toNat < 32 then ['\\', 'u', '0', '0'] ++ hex c.toNat
  else [c]

/-- A text as a JSON string. -/
def json (s : String) : String :=
  String.ofList (['"'] ++ s.toList.flatMap jsonChar ++ ['"'])

/-- A character as a report shows it inside quotes. -/
def literalChar (c : Char) : List Char :=
  if c = '"' then ['\\', '"']
  else if c = '\\' then ['\\', '\\']
  else if c = '\n' then ['\\', 'n']
  else if c = '\r' then ['\\', 'r']
  else if c = '\t' then ['\\', 't']
  else if c.toNat = 0 then ['\\', '0']
  else if Invisible.isInvisible c then ['\\', 'u', '\x7b'] ++ hex c.toNat ++ ['\x7d']
  else [c]

/-- A text as a report shows it: in quotes, and with every character visible. -/
def literal (s : String) : String :=
  String.ofList (['"'] ++ s.toList.flatMap literalChar ++ ['"'])

end TaintFlow.Quoted
