import JobBoards.Posting
import JobBoards.Screen.Basic
namespace JobBoards

inductive Style where
  | label | plain | link
  deriving DecidableEq, Repr

def Style.name : Style → Text
  | .label => "bold bright_green"
  | .plain => "green"
  | .link => "bright_blue"

structure Marking where
  start : Nat
  stop : Nat
  style : Style
  deriving DecidableEq, Repr

structure Styled where
  text : Text
  markings : List Marking
  deriving DecidableEq, Repr

namespace Styled

def empty : Styled := ⟨[], []⟩

/-- Adds a piece without its hidden codes; an empty piece leaves no marking. -/
def append (s : Styled) (piece : Text) (style : Option Style) : Styled :=
  if piece.isEmpty then s
  else
    let shown := Screen.visible piece
    let stop := s.text.length + shown.length
    ⟨s.text ++ shown,
      match style with
      | none => s.markings
      | some style => s.markings ++ [⟨s.text.length, stop, style⟩]⟩

end Styled

structure SheetRow where
  label : Text
  value : Text
  style : Style
  deriving DecidableEq, Repr

namespace Posting

def notAvailable : Text := "Not available"

def orNotAvailable (s : Text) : Text := if s.isEmpty then notAvailable else s

def tagsText (tags : Tags) : Text :=
  if tags.names.isEmpty then notAvailable
  else "[ ".toList ++ Text.join ", " tags.names ++ " ]".toList

def rows (p : Posting) : List SheetRow :=
  [⟨"Position:", p.title, .plain⟩, ⟨"Company:", p.company, .plain⟩, ⟨"Date Posted:", p.date, .plain⟩,
   ⟨"Location:", orNotAvailable p.location, .plain⟩, ⟨"Remuneration:", orNotAvailable p.pay, .plain⟩,
   ⟨"Tags:", tagsText p.tags, .plain⟩,
   ⟨"Apply:", orNotAvailable p.link, if p.link.isEmpty then .plain else .link⟩,
   ⟨"Site:", p.source, .link⟩]

def separator : Text := '+' :: List.replicate 98 '-' ++ ['+']

def addRow (s : Styled) (row : SheetRow) : Styled :=
  (((s.append row.label (some .label)).append [' '] none).append row.value (some row.style)).append ['\n'] none

def sheet (p : Posting) : Styled :=
  ((p.rows.foldl addRow .empty).append ['\n'] none).append separator (some .plain)

end Posting
end JobBoards
