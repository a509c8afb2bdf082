import JobBoards.Text.Basic
namespace JobBoards.Text

def compare (s t : Text) : Ordering := List.compareLex Ord.compare s t

def le (s t : Text) : Bool := (compare s t).isLE

end JobBoards.Text
