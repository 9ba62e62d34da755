import TopicLog.Text.Unprintable

/-!
Text in double quotes, as error messages show it. Quotes, backslashes and the common controls have a
short escape, other characters that cannot be shown are given by number, and an apostrophe stands as
it is.
-/
namespace TopicLog.Quoted

/-- A character given by its number, in lower-case digits without leading zeros. -/
def numbered (c : Char) : List Char :=
  '\\' :: 'u' :: '\x7b' :: (Nat.toDigits 16 c.toNat ++ ['\x7d'])

def writeChar (c : Char) : List Char :=
  if c = '\x00' then ['\\', '0']
  else if c = '\t' then ['\\', 't']
  else if c = '\n' then ['\\', 'n']
  else if c = '\r' then ['\\', 'r']
  else if c = '"' then ['\\', '"']
  else if c = '\\' then ['\\', '\\']
  else if isUnprintable c then numbered c
  else [c]

end TopicLog.Quoted

namespace TopicLog

def quoted (text : String) : String :=
  String.ofList ('"' :: (text.toList.flatMap Quoted.writeChar ++ ['"']))

end TopicLog
