import DocStore.Text.Split

namespace DocStore.Http

/-- A media type without its parameters, in lower case. -/
structure MediaType where
  main : List Char
  sub : List Char
  suffix : Option (List Char)
deriving DecidableEq, Repr

namespace MediaType

def isWordChar (c : Char) : Bool :=
  c.isAlphanum || "!#$%&'*+-.^_`|~".toList.contains c

def isQuotedChar (c : Char) : Bool := ' ' ≤ c && c != '\x7f'

def takeWord (text : List Char) : List Char × List Char :=
  (text.takeWhile isWordChar, text.dropWhile isWordChar)

/-- Sets off what follows the last plus sign of a word, unless the word begins with it. -/
def splitSuffix (word : List Char) : List Char × Option (List Char) :=
  match Text.cut '+' word.reverse with
  | (_, none) | (_, some []) => (word, none)
  | (suffix, some before) => (before.reverse, some suffix.reverse)

/-- The text after a quoted value and the blanks behind it, up to the next parameter. -/
def afterQuoted (text : List Char) : Option (List Char) :=
  match text.dropWhile fun c => isQuotedChar c && c != '"' with
  | '"' :: rest =>
      match rest.dropWhile (· == ' ') with
      | [] => some []
      | ';' :: rest => some rest
      | _ => none
  | _ => none

/-- The text after the value of a parameter, up to the next parameter. -/
def afterValue (text : List Char) : Option (List Char) :=
  match text with
  | '"' :: rest => afterQuoted rest
  | _ =>
      match takeWord text with
      | (_, []) => some []
      | (_ :: _, ';' :: rest) => some rest
      | _ => none

/-- Whether a text is a list of parameters; `fuel` bounds their number. -/
def areParameters : Nat → List Char → Bool
  | 0, _ => false
  | fuel + 1, text =>
      match text.dropWhile (· == ' ') with
      | [] => true
      | start =>
          match takeWord start with
          | (_ :: _, '=' :: rest) =>
              match afterValue rest with
              | some rest => areParameters fuel rest
              | none => false
          | _ => false

def ofText? (text : String) : Option MediaType :=
  let lower := text.toList.map Char.toLower
  match takeWord lower with
  | (main@(_ :: _), '/' :: rest) =>
      match takeWord rest with
      | (word@(_ :: _), rest) =>
          let (sub, suffix) := splitSuffix word
          match rest with
          | [] => some ⟨main, sub, suffix⟩
          | ';' :: parameters =>
              if areParameters (parameters.length + 1) parameters then some ⟨main, sub, suffix⟩
              else none
          | _ => none
      | _ => none
  | _ => none

def isJson (type : MediaType) : Bool :=
  type.main == "application".toList &&
    (type.sub == "json".toList || type.suffix == some "json".toList)

def form : String := "application/x-www-form-urlencoded"

end MediaType

end DocStore.Http
