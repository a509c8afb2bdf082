import JobBoards.Text.Basic
namespace JobBoards

structure Retry where
  total : Nat
  backoff : Nat
  statuses : List Nat
  methods : List Text
  deriving DecidableEq, Repr

structure Session where
  verifies : Bool
  proxy : Option Text
  deriving DecidableEq, Repr

namespace Session

def standard : Session := ⟨true, none⟩

def userAgent : Text :=
  "Mozilla/5.0 (Macintosh; Intel Mac OS X 10_15_7) AppleWebKit/537.36 ".toList ++
    "(KHTML, like Gecko) Chrome/120.0 Safari/537.36".toList

def schemes : List Text := ["http", "https"]

def proxies (s : Session) : List (Text × Text) :=
  match s.proxy with
  | none | some [] => []
  | some p => schemes.map fun scheme => (scheme, p)

def retry : Retry := ⟨3, 1, [429, 500, 502, 503, 504], ["GET"]⟩

end Session
end JobBoards
