import TopicLog.MessageLayout.Decorated

/-!
How layouts describe themselves in logs. The naming strategy and the codec are functions and are not
shown.
-/
namespace TopicLog

def Dialect.title : Dialect → String
  | .sqlite => "Sqlite"
  | .mysql => "MySql"

def TableNaming.description : String := "TableNaming \x7b .. \x7d"

def MessageSettings.describe (settings : MessageSettings) : String :=
  "Default" ++ settings.dialect.title ++ "Schema \x7b table_naming: " ++
    TableNaming.description ++ ", batch_size: " ++ toString settings.batchSize ++ ", .. \x7d"

def CursorSettings.describe (settings : CursorSettings) : String :=
  "Default" ++ settings.dialect.title ++ "OffsetsAdapter \x7b table_naming: " ++
    TableNaming.description ++ " \x7d"

/-- Tells which operations are replaced, given the description of the layout inside. -/
def Decorated.describe (decorated : Decorated) (inner : String) : String :=
  "SchemaDecorator \x7b inner: " ++ inner ++
    ", init_schema: " ++ toString decorated.setup.isSome ++
    ", insert: " ++ toString decorated.append.isSome ++
    ", select: " ++ toString decorated.fetch.isSome ++
    ", decode: " ++ toString decorated.decode.isSome ++ " \x7d"

end TopicLog
