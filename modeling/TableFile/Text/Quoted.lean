import TableFile.Text.Visible

namespace TableFile.Text

def hexDigits (n : Nat) : List Char :=
  Nat.toDigits 16 n

def escape (c : Char) : List Char :=
  if c = '"' ∨ c = '\\' then ['\\', c]
  else if c = '\n' then ['\\', 'n']
  else if c = '\r' then ['\\', 'r']
  else if c = '\t' then ['\\', 't']
  else if c.toNat = 0 then ['\\', '0']
  else if isVisible c then [c]
  else ['\\', 'u', '\x7b'] ++ hexDigits c.toNat ++ ['\x7d']

def quoted (s : String) : String :=
  .ofList ('"' :: s.toList.flatMap escape ++ ['"'])

end TableFile.Text
