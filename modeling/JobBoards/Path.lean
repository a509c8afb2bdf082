import JobBoards.Text.Basic
namespace JobBoards.Path

/-- A path without empty segments and without points that name the folder they stand in. Two leading slashes
are kept, three or more count as one. -/
def normal (s : Text) : Text :=
  let root : Text :=
    match s with
    | '/' :: '/' :: '/' :: _ => ['/']
    | '/' :: '/' :: _ => ['/', '/']
    | '/' :: _ => ['/']
    | _ => []
  let segments := (Text.splitOn '/' s).filter fun p => !p.isEmpty && p != ['.']
  match root ++ Text.join ['/'] segments with
  | [] => ['.']
  | p => p

end JobBoards.Path
