/-!
# Names in statements
-/

namespace SceneArchive.Statement

/-- A name between double quotes; a double quote inside it is written twice. -/
def quoteName (name : String) : String :=
  "\"" ++ String.ofList (name.toList.flatMap fun c => if c == '"' then ['"', '"'] else [c]) ++ "\""

end SceneArchive.Statement
