import NetScript.Binary64.Rounding
import NetScript.Node.Basic
import NetScript.Script.ModelClass

/-!
This module contains the part of a script that trains the model: the data, the loss function, the
optimizer and the training loop.
-/

namespace NetScript

structure Training where
  hasImages : Bool
  criterion : String
  optimizer : String

namespace Training

def epochs : Nat := 5

def trainBatchSize : Nat := 64

def testBatchSize : Nat := 1000

/--
The number of batches between two reports.
-/
def reportInterval : Nat := 100

/--
The first node of a category decides for all of them.
-/
def first? (nodes : List Node) (category : Category) : Option Node :=
  nodes.find? (·.effectiveCategory = some category)

def adamRate : Binary64 := .ofRatio 1 1000

def sgdRate : Binary64 := .ofRatio 1 100

def sgdMomentum : Binary64 := .ofRatio 9 10

def adamCode (rate : Binary64) : String :=
  "optim.Adam(model.parameters(), lr=" ++ Code.number rate ++ ")"

def sgdCode (rate momentum : Binary64) : String :=
  "optim.SGD(model.parameters(), lr=" ++ Code.number rate ++ ", momentum=" ++
    Code.number momentum ++ ")"

def optimizerCode (nodes : List Node) : String :=
  match first? nodes .optimizer with
  | none => adamCode adamRate
  | some node =>
    if node.kind = "adam" then
      adamCode (node.numberD "lr" adamRate)
    else if node.kind = "sgd" then
      sgdCode (node.numberD "lr" sgdRate) (node.numberD "momentum" sgdMomentum)
    else
      adamCode adamRate ++ "  # default"

def criterionCode (nodes : List Node) : String :=
  match first? nodes .loss with
  | none => "nn.CrossEntropyLoss()"
  | some node =>
    if node.kind = "crossEntropy" then "nn.CrossEntropyLoss()"
    else if node.kind = "mse" then "nn.MSELoss()"
    else "nn.CrossEntropyLoss()  # default"

def ofNodes (nodes : List Node) : Training where
  hasImages := nodes.any (·.kind = "imageInput")
  criterion := criterionCode nodes
  optimizer := optimizerCode nodes

def imageLines : List String :=
  [ "# Example with MNIST dataset",
    "transform = transforms.Compose([",
    "    transforms.ToTensor(),",
    "    transforms.Normalize((0.1307,), (0.3081,))",
    "])",
    "",
    "train_dataset = datasets.MNIST('./data', train=True, download=True, transform=transform)",
    "test_dataset = datasets.MNIST('./data', train=False, transform=transform)",
    "",
    "train_loader = DataLoader(train_dataset, batch_size=" ++ toString trainBatchSize ++
      ", shuffle=True)",
    "test_loader = DataLoader(test_dataset, batch_size=" ++ toString testBatchSize ++ ")" ]

def customLines : List String :=
  [ "# Define your custom dataset and DataLoader setup here",
    "# Example:",
    "# train_loader = DataLoader(your_dataset, batch_size=" ++ toString trainBatchSize ++
      ", shuffle=True)",
    "# test_loader = DataLoader(your_test_dataset, batch_size=" ++ toString testBatchSize ++ ")" ]

def loopLines : List String :=
  [ "def train(epochs=" ++ toString epochs ++ "):",
    "    for epoch in range(epochs):",
    "        model.train()",
    "        running_loss = 0.0",
    "        for batch_idx, (data, target) in enumerate(train_loader):",
    "            optimizer.zero_grad()",
    "            output = model(data)",
    "            loss = criterion(output, target)",
    "            loss.backward()",
    "            optimizer.step()",
    "",
    "            running_loss += loss.item()",
    "            if batch_idx % " ++ toString reportInterval ++ " == " ++
      toString (reportInterval - 1) ++ ":",
    "                print(f'Epoch: \x7bepoch+1\x7d, Batch: \x7bbatch_idx+1\x7d, " ++
      "Loss: \x7brunning_loss/" ++ toString reportInterval ++ ":.6f\x7d')",
    "                running_loss = 0.0",
    "",
    "        # Evaluate on test set",
    "        model.eval()",
    "        correct = 0",
    "        total = 0",
    "        with torch.no_grad():",
    "            for data, target in test_loader:",
    "                output = model(data)",
    "                _, predicted = torch.max(output.data, 1)",
    "                total += target.size(0)",
    "                correct += (predicted == target).sum().item()",
    "",
    "        print(f'Epoch: \x7bepoch+1\x7d, Accuracy: \x7b100 * correct / total:.2f\x7d%')" ]

def lines (training : Training) : List String :=
  ["# Setup data loaders", ""] ++
  (if training.hasImages then imageLines else customLines) ++
  [ "",
    "# Initialize the model",
    "model = " ++ ModelClass.name ++ "()",
    "",
    "# Define loss function",
    "criterion = " ++ training.criterion,
    "",
    "# Define optimizer",
    "optimizer = " ++ training.optimizer,
    "",
    "# Training loop" ] ++
  loopLines ++
  [ "",
    "# Run training",
    "train()" ]

def render (training : Training) : String :=
  Text.unlines training.lines

end Training

end NetScript
