import TextDiagram.Text.Hex
import TextDiagram.Text.Split

/-!
# Addresses of document services

A request travels to the host of an absolute HTTP address and names there a target: a path, with a
query if there is one. In a target the characters that may not stand for themselves are
percent-encoded, and the segments `.` and `..` are resolved.
-/
namespace TextDiagram.Remote

/-- The host of a request, and what is asked of it. -/
structure Address where
  host : String
  target : String
deriving Repr, DecidableEq

namespace Address

/-- What follows the scheme of an HTTP address. -/
def afterScheme? (text : List Char) : Option (List Char) :=
  match Text.cutAt (· == ':') text with
  | none => none
  | some (scheme, rest) =>
    let scheme := scheme.map Char.toLower
    if scheme = "http".toList ∨ scheme = "https".toList then some rest else none

/-- Whether the character ends the host of an address, or a segment of its path. -/
def isSlash (c : Char) : Bool :=
  c == '/' || c == '\\'

/-- The bytes of a character, percent-encoded. -/
def percentEncode (c : Char) : List Char :=
  (String.singleton c).toUTF8.toList.flatMap fun byte =>
    '%' :: (Text.hexDigits 2 byte.toNat).map Char.toUpper

/-- A text in which the characters that satisfy a condition are percent-encoded, as are controls and
all characters outside of ASCII. -/
def encodeWhere (special : Char → Bool) (text : List Char) : List Char :=
  text.flatMap fun c =>
    if special c || c.toNat < 0x20 || 0x7F ≤ c.toNat then percentEncode c else [c]

/-- A segment with its percent-encoded dots written as dots. -/
def decodeDots : List Char → List Char
  | '%' :: '2' :: 'e' :: rest => '.' :: decodeDots rest
  | '%' :: '2' :: 'E' :: rest => '.' :: decodeDots rest
  | c :: rest => c :: decodeDots rest
  | [] => []

/-- The segments of a path with `.` and `..` resolved; those before are given with the last one
first. An address that ends in such a segment ends in a slash. -/
def resolve (before : List (List Char)) : List (List Char) → List (List Char)
  | [] => before.reverse
  | segment :: rest =>
    if decodeDots segment = ['.'] then
      match rest with
      | [] => ([] :: before).reverse
      | rest => resolve before rest
    else if decodeDots segment = ['.', '.'] then
      match rest with
      | [] => ([] :: before.tail).reverse
      | rest => resolve before.tail rest
    else
      resolve (segment :: before) rest

/-- The path of an address that starts behind its host. -/
def path (text : List Char) : List Char :=
  let segments := (Text.pieces isSlash text).drop 1
  let encoded := segments.map (encodeWhere fun c => " \"<>`\x7b\x7d^".toList.contains c)
  (resolve [] encoded).flatMap ('/' :: ·)

/-- The query of an address with its question mark. -/
def query : List Char → List Char
  | [] => []
  | text => encodeWhere (fun c => " \"<>'".toList.contains c) text

/-- Reads an absolute HTTP address. Tabs and line ends count for nothing in it. -/
def parse? (text : String) : Option Address := do
  let rest ← afterScheme? (text.toList.filter fun c => !"\t\n\r".toList.contains c)
  let (host, rest) := (rest.dropWhile isSlash).span fun c => !isSlash c && c != '?' && c != '#'
  if host.isEmpty then
    none
  else
    let (inPath, inQuery) := (rest.takeWhile (· != '#')).span (· != '?')
    let path := match path inPath with
      | [] => ['/']
      | path => path
    some ⟨String.ofList host, String.ofList (path ++ query inQuery)⟩

end Address

end TextDiagram.Remote
