import NetScript.Palette
import NetScript.Setting
import NetScript.Text.CamelCase

/-!
This module contains the nodes of a graph and the look-up of their settings.
-/

namespace NetScript

structure Node where
  id : String
  kind : String
  /-- The category given to this node. It goes before the one of its kind. -/
  category : Option Category
  settings : Fields Setting

namespace Node

def ofKind (id kind : String) : Node where
  id
  kind
  category := Palette.category? kind
  settings := .empty

def effectiveCategory (node : Node) : Option Category :=
  node.category <|> Palette.category? node.kind

def isSelected (node : Node) : Bool :=
  node.effectiveCategory.any Category.isModelPart

/--
A setting is looked up under its key first, and then under the camel case spelling of the key.
-/
def setting? (node : Node) (key : String) : Option Setting :=
  node.settings.find? key <|> node.settings.find? (Text.camelCase key)

def numberD (node : Node) (key : String) (default : Binary64) : Binary64 :=
  ((node.setting? key).bind Setting.asNumber?).getD default

def boolD (node : Node) (key : String) (default : Bool) : Bool :=
  ((node.setting? key).bind Setting.asBool?).getD default

def set (node : Node) (key : String) (value : Setting) : Node :=
  { node with settings := node.settings.insert key value }

def unset (node : Node) (key : String) : Node :=
  { node with settings := node.settings.erase key }

def equalSettings : List (String × Setting) → List (String × Setting) → Bool
  | [], [] => true
  | (k, a) :: as, (l, b) :: bs => k = l && a.equal b && equalSettings as bs
  | _, _ => false

def equal (a b : Node) : Bool :=
  a.id = b.id && a.kind = b.kind && a.category = b.category &&
    equalSettings a.settings.entries b.settings.entries

end Node

end NetScript
