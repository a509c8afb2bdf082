import JobBoards.Text.Basic
namespace JobBoards.Yaml

inductive Token where
  | version (major : Nat)
  | tagHandle (handle start : Text)
  | reserved
  | documentStart
  | documentEnd
  | blockSequence
  | blockMapping
  | blockEnd
  | flowSequence
  | flowSequenceEnd
  | flowMapping
  | flowMappingEnd
  | entry
  | comma
  | key
  | value
  | alias (name : Text)
  | anchor (name : Text)
  | tag (handle : Option Text) (suffix : Text)
  | scalar (s : Text) (isPlain : Bool)
  | streamEnd
  deriving DecidableEq, Repr

end JobBoards.Yaml
