import DocShape.Yaml.Resolution

namespace DocShape.Yaml

/-! Reading YAML text. -/

/-- The value of a text that holds one document or none. -/
def read? (text : String) : Option Value := do
  let tokens ← Token.ofText? text.toList
  let tree ← Tree.ofTokens? tokens
  tree.value?

end DocShape.Yaml
