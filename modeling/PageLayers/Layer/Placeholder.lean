import PageLayers.Collection.Item
import PageLayers.Json.Display
import PageLayers.Text.Blank
import PageLayers.Text.Pieces

/-!
Placeholders in custom code: the name of a field in double braces. The last field of a name counts.
Names of no field are left as they are, and values are put in without being searched for
placeholders again.
-/

namespace PageLayers.Placeholder

/-- The name in a placeholder at the front, and what follows it. A name has at least one character
    and no closing brace. -/
def recognize (cs : List Char) : Option (List Char × List Char) :=
  match cs with
  | '{' :: '{' :: rest =>
    let name := rest.takeWhile (· ≠ '}')
    match name, rest.dropWhile (· ≠ '}') with
    | [], _ => none
    | _, '}' :: '}' :: after => some (name, after)
    | _, _ => none
  | _ => none

def source (name : List Char) : List Char := '{' :: '{' :: name ++ ['}', '}']

/-- The last field with the given name. -/
def fieldNamed? (fields : List Field) (name : String) : Option Field :=
  fields.reverse.find? (·.name = name)

/-- What a placeholder is replaced by. A field without a value shows nothing, and a value that is no
    text shows its display text. -/
def replacement (values : List (String × Json)) (fields : List Field) (name : List Char) :
    List Char :=
  match fieldNamed? fields (.ofList (Text.trimBoth Text.isBlank name)) with
  | none => source name
  | some f =>
    match values.lookup f.id with
    | none | some .null => []
    | some j => j.display.toList

def shown (values : List (String × Json)) (fields : List Field) : Text.Piece (List Char) → List Char
  | .literal c => [c]
  | .token name => replacement values fields name

/-- The code with its placeholders replaced. Without values, or without fields, it is left as it is.
    -/
def resolve (values : Option (List (String × Json))) (fields : List Field) (code : String) :
    String :=
  match values with
  | none => code
  | some values =>
    if values.isEmpty || fields.isEmpty then code
    else .ofList ((Text.pieces recognize code.toList).flatMap (shown values fields))

end PageLayers.Placeholder
