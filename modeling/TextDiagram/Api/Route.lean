import TextDiagram.Text.Hex
import TextDiagram.Text.Split

/-!
# Routes

The paths of the HTTP interface and the methods they answer to. The target of a request is a path or
an absolute address with a path; a query and a fragment are no part of the path. The id of a
document in a path may be percent-encoded.
-/
namespace TextDiagram

/-- What a path leads to. The id of a document is as it stands in the path. -/
inductive Route where
  | layout
  | importText (document : List Char)
  | restore (document : List Char)
  | undo (document : List Char)
  | health
deriving Repr, DecidableEq

/-- The characters of the scheme of an address. -/
def isSchemeChar (c : Char) : Bool :=
  c.isAlphanum || "+-.~".toList.contains c

/-- What follows the host of an absolute address: none for a target that names no scheme. -/
def behindHost? (target : List Char) : Option (List Char) :=
  match target.dropWhile isSchemeChar with
  | ':' :: '/' :: '/' :: rest => some (rest.dropWhile fun c => !"/?#".toList.contains c)
  | _ => none

/-- The path of a target, which is a path or an absolute address, without query and fragment. -/
def targetPath (target : List Char) : List Char :=
  ((behindHost? target).getD target).takeWhile fun c => c != '?' && c != '#'

namespace Route

/-- The route of a document that a name leads to. -/
def ofName? (document name : List Char) : Option Route :=
  if document.isEmpty then
    none
  else if name = "import".toList then
    some (importText document)
  else if name = "restore".toList then
    some (restore document)
  else if name = "undo".toList then
    some (undo document)
  else
    none

/-- The route that the target of a request leads to. -/
def ofTarget? (target : String) : Option Route :=
  match Text.pieces (· == '/') (targetPath target.toList) with
  | [[], first] => if first = "healthz".toList then some health else none
  | [[], first, second] =>
    if first = "api".toList ∧ second = "layout".toList then some layout else none
  | [[], first, second, document, name] =>
    if first = "api".toList ∧ second = "diagrams".toList then ofName? document name else none
  | _ => none

def allows (route : Route) (method : String) : Bool :=
  match route with
  | health => method == "GET" || method == "HEAD"
  | layout | importText _ | restore _ | undo _ => method == "POST"

end Route

/-- A text with its percent-encoded bytes decoded. A percent sign without two digits stands for
itself. Bytes outside of ASCII are kept apart as characters of their own; no id holds them. -/
def percentDecode : List Char → List Char
  | '%' :: high :: low :: rest =>
    match Text.hexDigit? high, Text.hexDigit? low with
    | some h, some l => Char.ofNat (h * 16 + l) :: percentDecode rest
    | _, _ => '%' :: percentDecode (high :: low :: rest)
  | c :: rest => c :: percentDecode rest
  | [] => []

end TextDiagram
