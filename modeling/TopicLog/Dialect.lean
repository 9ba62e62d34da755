/-!
The two dialects that statements are written in. They differ in the character that quotes a name;
inside a quoted name that character is doubled.
-/
namespace TopicLog

inductive Dialect where
  | sqlite
  | mysql
  deriving DecidableEq, Repr

namespace Dialect

def mark : Dialect → Char
  | .sqlite => '"'
  | .mysql => '\x60'

def double (mark : Char) : List Char → List Char
  | [] => []
  | c :: rest => if c = mark then mark :: mark :: double mark rest else c :: double mark rest

def quote (dialect : Dialect) (name : String) : String :=
  String.ofList (dialect.mark :: (double dialect.mark name.toList ++ [dialect.mark]))

end Dialect
end TopicLog
