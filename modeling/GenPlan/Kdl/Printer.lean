import GenPlan.Kdl.Lexeme

namespace GenPlan.Kdl.Value

def escape : Char → String
  | '\\' => "\\\\"
  | '"' => "\\\""
  | '\n' => "\\n"
  | '\r' => "\\r"
  | '\t' => "\\t"
  | '\x08' => "\\b"
  | '\x0c' => "\\f"
  | c => String.singleton c

def print : Value → String
  | text s =>
    if isIdentifier s.toList then s else "\"" ++ String.join (s.toList.map escape) ++ "\""
  | integer n => toString n
  | number x => x.write .literal (fun negative => if negative then "#-inf" else "#inf") "#nan"
  | boolean b => "#" ++ toString b
  | null => "#null"

end GenPlan.Kdl.Value
