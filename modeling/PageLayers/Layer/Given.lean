import PageLayers.Collection.Given
import PageLayers.Layer.Injection

/-!
Injection of values as they are given, which need not be texts. What counts as nothing is missing,
and any other value that is no text is a failure where a slot shows it: a fault of the slot's new
content, or of the text around a token. Values that no slot shows do no harm.
-/

namespace PageLayers

def FieldBinding.contentKey (b : FieldBinding) : String :=
  if b.fieldType.any FieldType.isAsset then "asset_id" else "value"

/-- The text with its tokens replaced by the given values that they name. All tokens are read before
    any value is put in. Without an item in scope the text is left as it is. -/
def Token.resolveGiven (given : Option Given) (text : String) : Except Failure String :=
  match given with
  | none => .ok text
  | some given => do
    let shown ← Token.resolve (some given.texts) text
    if (← Token.paths text).any given.isFormless then throw .formlessValue
    return shown

def SlotValue.injectGiven (given : Given) : Filler
  | .field binding =>
    if given.isFormless binding.path then
      .error (.faulty [⟨[.key binding.contentKey], .stringType⟩])
    else (SlotValue.field binding).inject given.texts
  | .dynamicText content => .static <$> Token.resolveGiven (some given) content
  | v => .ok v

def Layer.injectGiven (given : Given) : Layer → Except Failure Layer :=
  Layer.fillFitting (SlotValue.injectGiven given)

def Layer.injectGivenForest (given : Given) : List Layer → Except Failure (List Layer) :=
  Layer.fillFittingForest (SlotValue.injectGiven given)

end PageLayers
