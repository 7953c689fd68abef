import PageLayers.Text.Blank
import PageLayers.Text.Case

/-!
The types of collection fields. Stored data writes some names with hyphens and some with
underscores, and capitals and blanks around a name do not matter.
-/

namespace PageLayers

inductive FieldType
  | text
  | number
  | boolean
  | date
  | email
  | phone
  | richText
  | image
  | audio
  | video
  | document
  | reference
  | multiReference
  deriving DecidableEq, Repr

namespace FieldType

def all : List FieldType :=
  [text, number, boolean, date, email, phone, richText, image, audio, video, document, reference,
    multiReference]

def name : FieldType → String
  | text => "text"
  | number => "number"
  | boolean => "boolean"
  | date => "date"
  | email => "email"
  | phone => "phone"
  | richText => "rich_text"
  | image => "image"
  | audio => "audio"
  | video => "video"
  | document => "document"
  | reference => "reference"
  | multiReference => "multi_reference"

def normalize (s : String) : String :=
  (Text.lower (Text.strip s)).map fun c => if c = '-' then '_' else c

def ofText? (s : String) : Option FieldType := all.find? (·.name = normalize s)

def isReference (t : FieldType) : Bool := t = reference || t = multiReference

def isAsset (t : FieldType) : Bool := t = image || t = audio || t = video || t = document

end FieldType
end PageLayers
