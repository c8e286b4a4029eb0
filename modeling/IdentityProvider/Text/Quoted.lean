import IdentityProvider.Text.Numeral
import IdentityProvider.Text.Unprintable

namespace IdentityProvider.Text

def quoteChar (c : Char) : List Char :=
  if c = '\t' then "\\t".toList
  else if c = '\r' then "\\r".toList
  else if c = '\n' then "\\n".toList
  else if c = '"' then "\\\"".toList
  else if c = '\\' then "\\\\".toList
  else if c.toNat = 0 then "\\0".toList
  else if isUnprintable c then "\\u\x7b".toList ++ hexDigits false c.toNat ++ ['\x7d']
  else [c]

def quote (s : String) : String :=
  "\"" ++ String.ofList (s.toList.flatMap quoteChar) ++ "\""

end IdentityProvider.Text
