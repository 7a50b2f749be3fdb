import ModelViews.Datamodel.Basic

namespace ModelViews.Relation

def identity? (models : List Model) (name : String) : Option String :=
  (Datamodel.model? models name).map fun model =>
    if model.hasIntegerId then "\"number.integer\"" else "\"string\""

def opaqueType (field : Field) : String :=
  if field.isList then "\"unknown[]\""
  else if field.isRequired then "\"unknown\""
  else "\"unknown | null\""

def isOptional (field : Field) : Bool :=
  !field.isList && !field.isRequired

def target (identity : String) : String :=
  "\x7b \"id\": " ++ identity ++ " \x7d"

def connect (identity : String) : String :=
  "\x7b \"connect\": " ++ target identity ++ " \x7d"

def changeList (identity : String) : String :=
  "\x7b \"connect\"?: " ++ target identity ++ "[], \"disconnect\"?: " ++ target identity ++ "[] \x7d"

def changeOptional (identity : String) : String :=
  "\x7b \"connect\"?: " ++ target identity ++ ", \"disconnect\"?: \"boolean\" \x7d"

def change (field : Field) (identity : String) : String :=
  if field.isList then changeList identity
  else if field.isRequired then connect identity
  else changeOptional identity

end ModelViews.Relation
