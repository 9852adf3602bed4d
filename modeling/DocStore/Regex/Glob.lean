import DocStore.Regex.Parser

namespace DocStore.Regex

namespace Glob

/-- A text as the part of an expression that it alone belongs to. -/
def escape (text : List Char) : List Char :=
  text.flatMap fun c => if Element.isMeta c then ['\\', c] else [c]

/-- The expression of the rest of a pattern, behind what is written already.  `literal` is what
came since the latest wildcard and is not yet written. -/
def writeRest (written literal : List Char) : List Char → List Char
  | [] => written ++ escape literal ++ ['$']
  | c :: rest =>
      if c = '%' then writeRest (written ++ escape literal ++ ['.', '*']) [] rest
      else if c = '_' then writeRest (written ++ escape literal ++ ['.']) [] rest
      else writeRest written (literal ++ [c]) rest

/-- The expression of a pattern, from the start of a text to its end. -/
def expression (pattern : String) : String :=
  String.ofList (writeRest ['^'] [] pattern.toList)

end Glob

/-- The expression of a glob pattern, if it is not too large. -/
def Node.parseGlob? (pattern : String) (read? : Reader := Node.parseWith?) : Option Node :=
  read? .glob (Glob.expression pattern)

end DocStore.Regex
