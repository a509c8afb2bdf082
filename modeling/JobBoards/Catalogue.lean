import JobBoards.Fetch
import JobBoards.Session
namespace JobBoards

structure Fetcher where
  board : Board
  session : Session
  deriving DecidableEq, Repr

namespace Fetcher

def className (f : Fetcher) : Text := f.board.site.layout.reader

def shown (f : Fetcher) : Text := '<' :: f.className ++ " for ".toList ++ f.board.name ++ ['>']

def ofSites (sites : List Site) (session : Option Session) (timeout : Int) : List Fetcher :=
  sites.map fun site => ⟨Board.ofSite timeout site, session.getD .standard⟩

def share (fetchers : List Fetcher) : Bool :=
  fetchers.all fun f => fetchers.head?.all (·.session == f.session)

@[simp] theorem share_ofSites (sites : List Site) (session : Option Session) (timeout : Int) :
    share (ofSites sites session timeout) = true := by
  cases sites <;> simp [share, ofSites]

def configured (fetchers : List Fetcher) : Record :=
  ⟨.debug, .catalogue,
    "Configured ".toList ++ Text.ofNat fetchers.length ++ " sources: ".toList ++
      Text.join ", " (fetchers.map fun f => f.board.site.name)⟩

end Fetcher
end JobBoards
