/-!
# Tokens of YAML

What a text in YAML is made of once its layout has been understood. Indentation has become
tokens that open and close blocks, and an entry of a table has a token before its key and
one before its value.
-/
namespace Ancestry.Yaml

inductive Token
  | version
  | tagDirective (handle : List Char) (replacement : List Char)
  | documentStart
  | documentEnd
  | streamEnd
  | blockSequence
  | blockMapping
  | blockEnd
  | flowSequence
  | flowSequenceEnd
  | flowMapping
  | flowMappingEnd
  | blockEntry
  | flowEntry
  | key
  | value
  | alias (name : List Char)
  | anchor (name : List Char)
  | tag (handle suffix : List Char)
  | scalar (isPlain : Bool) (text : List Char)
  deriving Repr, DecidableEq

end Ancestry.Yaml
