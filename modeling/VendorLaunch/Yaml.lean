import VendorLaunch.Yaml.Value

/-!
# Reading YAML

A YAML text holds at most one document, and the document denotes data. The text is cut into
tokens, the tokens describe a tree of nodes, and the root of the tree denotes the data. A text
without a document denotes nothing.
-/

namespace VendorLaunch.Yaml

/-- The data that a text denotes. -/
def read (text : String) : Except Flaw Data :=
  if text.toList.all isAllowed then
    match document (tokensOf text) with
    | .error f => .error f
    | .ok none => .ok .null
    | .ok (some node) => node.value
  else malformed

end VendorLaunch.Yaml
