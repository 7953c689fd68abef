import PageLayers.Collection.Item
import PageLayers.Json.Stored
import PageLayers.Text.Pieces

/-!
Inline tokens: places in a text that show a field of the item in scope. A token is a pair of tags
around JSON text that names a field and the fields to follow from it. What stands between the tags
and names no field is left as it is, and values are put in without being searched for tokens again.
-/

namespace PageLayers.Token

def openTag : List Char := "<ycode-inline-variable>".toList

def closeTag : List Char := "</ycode-inline-variable>".toList

def source (payload : List Char) : List Char := openTag ++ payload ++ closeTag

/-- What is between the tags of a token at the front, up to the nearest closing tag, and what
    follows it. -/
def recognize (cs : List Char) : Option (List Char × List Char) :=
  if openTag.isPrefixOf cs then Text.splitAtWord? closeTag (cs.drop openTag.length) else none

def texts : List Json → Except Failure (List String)
  | [] => .ok []
  | .text s :: js => return s :: (← texts js)
  | _ :: _ => .error .malformedPath

/-- The fields that a payload's relationships name. A text names a field with each of its
    characters, and an object with each of its keys. -/
def relationships (data : List (String × Json)) : Except Failure (List Json) :=
  match data.lookup "relationships" with
  | none => .ok []
  | some j =>
    if !j.isTruthy then .ok []
    else match j with
      | .array js => .ok js
      | .text s => .ok (s.toList.map fun c => .text (String.singleton c))
      | .object ms => .ok (ms.map fun (k, _) => .text k)
      | _ => .error .malformedPath

/-- The path that the data of a field token names; none if there is no field. -/
def dataPath (data : List (String × Json)) : Except Failure (Option String) :=
  match data.lookup "field_id" with
  | none => .ok none
  | some field =>
    if field.isTruthy then do
      let followed ← relationships data
      return some (".".intercalate (← texts (field :: followed)))
    else .ok none

def jsonPath (j : Json) : Except Failure (Option String) :=
  if j.member? "type" = some (.text "field") then
    match j.member? "data" with
    | some (.object data) => dataPath data
    | _ => .ok none
  else .ok none

def jsonText (payload : List Char) : List Char := Text.trimBoth Text.isBlank payload

/-- The path that a token names; none if the token is to be left as it is. -/
def path (payload : List Char) : Except Failure (Option String) :=
  match Json.readStored? (jsonText payload) with
  | .ok (some j) => jsonPath j
  | .ok none => .ok none
  | .error e => .error e

/-- What a token is replaced by. A field without a value shows nothing. -/
def replacement (values : Values) (payload : List Char) : Except Failure (List Char) := do
  match ← path payload with
  | some p => return ((values.lookup p).getD "").toList
  | none => return source payload

def joinPieces (values : Values) : List (Text.Piece (List Char)) → Except Failure (List Char)
  | [] => .ok []
  | .literal c :: ps => return c :: (← joinPieces values ps)
  | .token payload :: ps => do
    let shown ← replacement values payload
    return shown ++ (← joinPieces values ps)

/-- The text with its tokens replaced by the values that they name. Without an item in scope it is
    left as it is. -/
def resolve (values : Option Values) (text : String) : Except Failure String :=
  match values with
  | none => .ok text
  | some values => return .ofList (← joinPieces values (Text.pieces recognize text.toList))

def piecePaths : List (Text.Piece (List Char)) → Except Failure (List String)
  | [] => .ok []
  | .literal _ :: ps => piecePaths ps
  | .token payload :: ps => do
    let named ← path payload
    return named.toList ++ (← piecePaths ps)

def paths (text : String) : Except Failure (List String) :=
  piecePaths (Text.pieces recognize text.toList)

def fitIn (room : Nat) (text : String) : Bool :=
  (Text.pieces recognize text.toList).all fun
    | .literal _ => true
    | .token payload => Json.fitsIn room (jsonText payload)

def literals (ps : List (Text.Piece (List Char))) : List Char :=
  ps.filterMap fun
    | .literal c => some c
    | .token _ => none

def strip (text : String) : String := .ofList (literals (Text.pieces recognize text.toList))

end PageLayers.Token
