import DeskCalculator.Yaml.Graph.Data
import DeskCalculator.Yaml.Graph.Reader
import DeskCalculator.Yaml.Token.Lexer

/-!
# From a document to its data

A document's text is cut into tokens, which make a graph, whose nodes become data.

* `load` — the data of a document.
-/

namespace DeskCalculator.Yaml

/-- How deep the data of a document is shown.  Settings lie less deep: a section is a part of the
document, and may be a list of pairs. -/
def shownDepth : Nat := 4

/-- The data of a document; an empty one is null. -/
def load (text : List Char) : Except Failure Datum := do
  match ← Graph.ofTokens? (tokensOf text) with
  | (_, none) => .ok .null
  | (g, some root) => g.data shownDepth root

end DeskCalculator.Yaml
