import TableFile.Decimal.Style
import TableFile.Text.Quoted
import TableFile.Value.Basic

namespace TableFile.Value

def display : Value → String
  | null => ""
  | integer n => toString n.toInt
  | float bits => Decimal.Style.plain.write bits
  | zero => "0"
  | one => "1"
  | reserved code => "<RESERVED " ++ code.toNat.repr ++ ">"
  | blob data => Text.ofUtf8 data
  | text content => content

def inspect : Value → String
  | null => "Null"
  | integer n => "Integer(" ++ toString n.toInt ++ ")"
  | float bits => "Float(" ++ Decimal.Style.detailed.write bits ++ ")"
  | zero => "Zero"
  | one => "One"
  | reserved code => "Reserved(" ++ code.toNat.repr ++ ")"
  | blob data => "Blob([" ++ ", ".intercalate (data.map (·.toNat.repr)) ++ "])"
  | text content => "Text(" ++ Text.quoted content ++ ")"

def inspectColumn : Option Value → String
  | none => "None"
  | some value => "Some(" ++ value.inspect ++ ")"

end TableFile.Value
