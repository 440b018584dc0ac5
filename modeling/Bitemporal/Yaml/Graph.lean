import Bitemporal.Yaml.Scalar

/-!
# YAML graphs

The nodes of a document, each at its place. A reference stands for the place of the node that it
names, so nodes can be shared and collections can hold themselves.
-/

namespace Bitemporal.Yaml

abbrev Place := Nat

inductive Node where
  | scalar (tag : Tag) (text : String)
  | sequence (tag : Tag) (items : List Place)
  | mapping (tag : Tag) (entries : List (Place × Place))

namespace Node

def missing : Node := scalar .null ""

def tag : Node → Tag
  | scalar tag _ => tag
  | sequence tag _ => tag
  | mapping tag _ => tag

def withTag (tag : Tag) : Node → Node
  | scalar _ text => scalar tag text
  | sequence _ items => sequence tag items
  | mapping _ entries => mapping tag entries

end Node

structure Graph where
  nodes : Array Node

namespace Graph

def empty : Graph := ⟨#[]⟩

def size (g : Graph) : Nat := g.nodes.size

def get (g : Graph) (p : Place) : Node := g.nodes.getD p .missing

def set (g : Graph) (p : Place) (n : Node) : Graph := ⟨g.nodes.setIfInBounds p n⟩

def add (g : Graph) (n : Node) : Place × Graph := (g.size, ⟨g.nodes.push n⟩)

end Graph

end Bitemporal.Yaml
