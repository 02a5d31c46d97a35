import LabLifecycle.Text.Unicode

/-!
# Quoted texts

Names and values shown inside a message are quoted so that every character of them can
be told apart: quotes, backslashes and control characters are escaped, and so is every
character that has no visible form of its own or attaches to the character before it.
-/
namespace LabLifecycle

/-- Lower-case hexadecimal digits of a number, without leading zeros. -/
def hexDigits (n : Nat) : String := String.ofList (Nat.toDigits 16 n)

/-- A character as it appears between double quotes. -/
def quoteChar (c : Char) : String :=
  if c == '\x00' then "\\0"
  else if c == '\t' then "\\t"
  else if c == '\r' then "\\r"
  else if c == '\n' then "\\n"
  else if c == '"' then "\\\""
  else if c == '\\' then "\\\\"
  else if 0x20 ≤ c.toNat && c.toNat < 0x7F then c.toString
  else if Unicode.isExtender c || Unicode.isInvisible c then
    "\\u\x7b" ++ hexDigits c.toNat ++ "\x7d"
  else c.toString

/-- A text between double quotes. -/
def quote (s : String) : String :=
  "\"" ++ String.join (s.toList.map quoteChar) ++ "\""

/-- A list of names as quoted texts in brackets. -/
def quoteList (names : List String) : String :=
  "[" ++ String.intercalate ", " (names.map quote) ++ "]"

end LabLifecycle
