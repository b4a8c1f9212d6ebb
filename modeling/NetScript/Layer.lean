import NetScript.Binary64.Rounding
import NetScript.Node.Basic

/-!
This module contains the layers that code can be generated for, and the calls that construct them.
-/

namespace NetScript

structure Call where
  callee : String
  positional : List Setting
  keywords : List (String × Setting)

namespace Call

def keywordCode (keyword : String × Setting) : String :=
  keyword.1 ++ "=" ++ keyword.2.code

def code (call : Call) : String :=
  call.callee ++ "(" ++
    ", ".intercalate (call.positional.map Setting.code ++ call.keywords.map keywordCode) ++ ")"

end Call

inductive Layer where
  | linear
  | conv2d
  | lstm
  | relu
  | sigmoid
  | tanh
deriving DecidableEq

namespace Layer

def ofKind? (kind : String) : Option Layer :=
  if kind = "linear" then some linear
  else if kind = "conv2d" then some conv2d
  else if kind = "lstm" then some lstm
  else if kind = "relu" then some relu
  else if kind = "sigmoid" then some sigmoid
  else if kind = "tanh" then some tanh
  else none

def stem : Layer → String
  | linear => "fc"
  | conv2d => "conv"
  | lstm => "lstm"
  | relu => "relu"
  | sigmoid => "sigmoid"
  | tanh => "tanh"

def fieldName (layer : Layer) (ordinal : Nat) : String :=
  "self." ++ layer.stem ++ toString ordinal

def size (node : Node) (key : String) (default : Binary64) : Setting :=
  match node.setting? key with
  | some (.number x) => .number x
  | some (.list items) => .list items
  | _ => .number default

/--
A keyword that is left out if its value is the default or of no use.
-/
def keyword? (node : Node) (key : String) (default : Binary64) (allowsText : Bool) :
    Option (String × Setting) :=
  match node.setting? key with
  | some (.number x) => if x.equal default then none else some (key, .number x)
  | some (.list items) => some (key, .list items)
  | some (.text s) => if allowsText then some (key, .text s) else none
  | _ => none

def call (layer : Layer) (node : Node) : Call :=
  match layer with
  | linear =>
    { callee := "nn.Linear"
      positional :=
        [.number (node.numberD "in_features" 784), .number (node.numberD "out_features" 128)]
      keywords := if node.boolD "bias" true then [] else [("bias", .bool false)] }
  | conv2d =>
    { callee := "nn.Conv2d"
      positional :=
        [ .number (node.numberD "in_channels" 3), .number (node.numberD "out_channels" 16),
          size node "kernel_size" 3 ]
      keywords :=
        (keyword? node "stride" 1 false).toList ++ (keyword? node "padding" 0 true).toList }
  | lstm =>
    { callee := "nn.LSTM"
      positional :=
        [.number (node.numberD "input_size" 28), .number (node.numberD "hidden_size" 64)]
      keywords := [("batch_first", .bool true)] }
  | relu => ⟨"nn.ReLU", [], []⟩
  | sigmoid => ⟨"nn.Sigmoid", [], []⟩
  | tanh => ⟨"nn.Tanh", [], []⟩

end Layer

/--
The layer of a node, if code can be generated for its kind.
-/
def Node.layer? (node : Node) : Option Layer :=
  Layer.ofKind? node.kind

end NetScript
