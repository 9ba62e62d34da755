/-!
How far a transaction is kept apart from others, the weakest level first.
-/
namespace TopicLog

inductive Isolation where
  | readUncommitted
  | readCommitted
  | repeatableRead
  | serializable
  deriving DecidableEq, Repr

namespace Isolation

def rank : Isolation → Nat
  | .readUncommitted => 0
  | .readCommitted => 1
  | .repeatableRead => 2
  | .serializable => 3

def compare (a b : Isolation) : Ordering := Ord.compare a.rank b.rank

def max (a b : Isolation) : Isolation := if a.rank ≤ b.rank then b else a

def name : Isolation → String
  | .readUncommitted => "ReadUncommitted"
  | .readCommitted => "ReadCommitted"
  | .repeatableRead => "RepeatableRead"
  | .serializable => "Serializable"

def ofName? (name : String) : Option Isolation :=
  [.readUncommitted, .readCommitted, .repeatableRead, .serializable].find? (·.name = name)

end Isolation
end TopicLog
