import PageLayers.Document.Record
import PageLayers.Text.Case

/-!
Settings of a resolution. They come from arguments and, where an argument is absent, from
environment variables; the names of neither depend on case. Settings that were loaded from the
environment alone can be remembered.
-/

namespace PageLayers
open Document

structure Settings where
  defaultItemsPerPage : Nat := 10
  slugFieldKey : String := "slug"
  resolveReferences : Bool := true
  deriving DecidableEq, Repr

namespace Settings

def ofMembers (ms : Members) : Checked Settings :=
  Settings.mk <$> optional ["default_items_per_page"] 10 (wholeFrom 1) ms
    <*> optional ["slug_field_key"] "slug" text ms
    <*> optional ["resolve_references"] true flag ms

def toJson (s : Settings) : Json := .object [
  ("default_items_per_page", ofNat s.defaultItemsPerPage),
  ("slug_field_key", .text s.slugFieldKey),
  ("resolve_references", .bool s.resolveReferences)]

def variablePrefix : String := "pagetree_"

/-- The settings that environment variables hold. Of several variables whose names differ in case
    the last counts. -/
def ofEnvironment (environment : List (String × String)) : Members :=
  let lowered := environment.reverse.map fun (name, value) => (Text.lower name, value)
  ["default_items_per_page", "slug_field_key", "resolve_references"].filterMap fun key =>
    (lowered.lookup (variablePrefix ++ key)).map fun value => (key, .text value)

/-- Settings from arguments and, after them, the environment. The first of several arguments for a
    setting counts. -/
def load (arguments : Members) (environment : List (String × String)) : Checked Settings :=
  ofMembers
    (arguments.map (fun (name, value) => (Text.lower name, value)) ++ ofEnvironment environment)

/-- The remembered settings, or else those of the environment; and what is remembered then. Faulty
    settings are not remembered. -/
def remember (remembered : Option Settings) (environment : List (String × String)) :
    Checked Settings × Option Settings :=
  match remembered with
  | some s => (.ok s, remembered)
  | none =>
    match load [] environment with
    | .ok s => (.ok s, some s)
    | .faulty fs => (.faulty fs, none)

end Settings
end PageLayers
