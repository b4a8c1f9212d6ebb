import NetScript.Node.Basic

/-!
This module contains the imports at the top of a script. Some of them are only there if a node needs
them.
-/

namespace NetScript.Preamble

def base : List String :=
  [ "import torch",
    "import torch.nn as nn",
    "import torch.optim as optim",
    "import torchvision.transforms as transforms",
    "from torch.utils.data import DataLoader" ]

def conditional : List (List String × String) :=
  [ (["dataLoader", "imageInput"], "import torchvision.datasets as datasets"),
    (["visualize"], "import matplotlib.pyplot as plt") ]

def isNeeded (nodes : List Node) (kinds : List String) : Bool :=
  nodes.any fun node => kinds.contains node.kind

def lines (nodes : List Node) : List String :=
  base ++ (conditional.filter fun (kinds, _) => isNeeded nodes kinds).map (·.2)

def render (nodes : List Node) : String :=
  "\n".intercalate (lines nodes)

end NetScript.Preamble
