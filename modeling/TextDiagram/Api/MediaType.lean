/-!
# Media types

The value of a content type header: a type, a subtype with an optional suffix behind its last `+`,
and parameters. A body is taken for JSON when its media type is `application/json`, or an
application type with the suffix `json`.
-/
namespace TextDiagram

/-- A media type without its parameters, in lower case. -/
structure MediaType where
  type : List Char
  /-- The subtype up to its last `+`. -/
  subtype : List Char
  /-- What stands behind the last `+` of the subtype. -/
  suffix : Option (List Char)
deriving Repr, DecidableEq

namespace MediaType

/-- The characters that names and values are made of. -/
def isTokenChar (c : Char) : Bool :=
  c.isAlphanum || "!#$%&'*+-.^_`|~".toList.contains c

/-- The characters inside of a quoted value. -/
def isQuotable (c : Char) : Bool :=
  ' ' ≤ c && c ≤ '~'

/-- What follows the value of a parameter: nothing, or a semicolon and further parameters. Behind
a quoted value there may be spaces. -/
def afterValue (spaces : Bool) (text : List Char) : Option (List Char) :=
  match if spaces then text.dropWhile (· == ' ') else text with
  | [] => some []
  | ';' :: rest => some rest
  | _ => none

/-- What follows one parameter. A quoted value holds at least one character. -/
def afterParameter? (text : List Char) : Option (List Char) :=
  match text.span isTokenChar with
  | (_ :: _, '=' :: '"' :: first :: rest) =>
    let (inner, closing) := rest.span (· != '"')
    match closing with
    | '"' :: rest => if (first :: inner).all isQuotable then afterValue true rest else none
    | _ => none
  | (_ :: _, '=' :: rest) =>
    match rest.span isTokenChar with
    | ([], ';' :: _) => none
    | (_, rest) => afterValue false rest
  | _ => none

/-- Whether a text is a list of parameters; `bound` limits how many. -/
def areParameters : Nat → List Char → Bool
  | 0, _ => false
  | bound + 1, text =>
    match text.dropWhile (· == ' ') with
    | [] => true
    | solid =>
      match afterParameter? solid with
      | some rest => areParameters bound rest
      | none => false

/-- Splits a subtype at its last `+`, unless that is its first character. -/
def splitSuffix (subtype : List Char) : List Char × Option (List Char) :=
  match subtype.reverse.span (· != '+') with
  | (suffix, '+' :: first :: rest) => ((first :: rest).reverse, some suffix.reverse)
  | _ => (subtype, none)

def parse? (text : String) : Option MediaType :=
  match text.toList.span isTokenChar with
  | (type@(_ :: _), '/' :: rest) =>
    let (subtype, rest) := rest.span isTokenChar
    let wellFormed := match subtype, rest with
      | _, [] => true
      | _ :: _, ';' :: rest => areParameters (rest.length + 1) rest
      | _, _ => false
    if wellFormed then
      let (subtype, suffix) := splitSuffix (subtype.map Char.toLower)
      some ⟨type.map Char.toLower, subtype, suffix⟩
    else
      none
  | _ => none

def isJson (mediaType : MediaType) : Bool :=
  mediaType.type == "application".toList &&
    (mediaType.subtype == "json".toList || mediaType.suffix == some "json".toList)

end MediaType

end TextDiagram
