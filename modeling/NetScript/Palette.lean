import NetScript.Category

/-!
This module contains the palette: the kinds of nodes that the editor offers, with their categories.
-/

namespace NetScript

namespace Palette

structure Entry where
  kind : String
  category : Category
  label : String
  description : String
  inputs : Nat
  outputs : Nat
  configurable : Bool
deriving DecidableEq

def entries : List Entry :=
  [ ⟨"dataLoader", .input, "Data Loader", "Load and batch data for training", 0, 1, true⟩,
    ⟨"imageInput", .input, "Image Input", "Input for image data", 0, 1, true⟩,
    ⟨"linear", .layer, "Linear Layer", "Fully connected layer", 1, 1, true⟩,
    ⟨"conv2d", .layer, "Conv2D", "2D convolution layer", 1, 1, true⟩,
    ⟨"lstm", .layer, "LSTM", "Long Short-Term Memory layer", 1, 1, true⟩,
    ⟨"relu", .activation, "ReLU", "Rectified Linear Unit activation", 1, 1, false⟩,
    ⟨"sigmoid", .activation, "Sigmoid", "Sigmoid activation function", 1, 1, false⟩,
    ⟨"tanh", .activation, "Tanh", "Hyperbolic tangent activation", 1, 1, false⟩,
    ⟨"adam", .optimizer, "Adam", "Adam optimizer", 1, 1, true⟩,
    ⟨"sgd", .optimizer, "SGD", "Stochastic Gradient Descent", 1, 1, true⟩,
    ⟨"normalize", .transform, "Normalize", "Normalize input data", 1, 1, true⟩,
    ⟨"resize", .transform, "Resize", "Resize input dimensions", 1, 1, true⟩,
    ⟨"crossEntropy", .loss, "Cross Entropy", "Cross entropy loss function", 2, 1, false⟩,
    ⟨"mse", .loss, "MSE", "Mean squared error loss", 2, 1, false⟩,
    ⟨"concat", .operation, "Concatenate", "Concatenate multiple inputs", 2, 1, false⟩,
    ⟨"split", .operation, "Split", "Split input into multiple outputs", 1, 2, false⟩,
    ⟨"model", .output, "Model", "Final model output", 1, 0, true⟩,
    ⟨"visualize", .output, "Visualize", "Visualize model performance", 1, 0, false⟩,
    ⟨"export", .output, "Export", "Export trained model", 1, 0, true⟩ ]

def find? (kind : String) : Option Entry :=
  entries.find? (·.kind = kind)

def ofCategory (category : Category) : List Entry :=
  entries.filter (·.category = category)

def category? (kind : String) : Option Category :=
  (find? kind).map Entry.category

theorem nodup_kinds : (entries.map Entry.kind).Nodup := by
  decide

end Palette

end NetScript
