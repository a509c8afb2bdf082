import JobBoards.Posting
namespace JobBoards

inductive Field where
  | title | company | date | location | pay | source | tags | link
  deriving DecidableEq, Repr

namespace Field

def all : List Field := [.title, .company, .date, .location, .pay, .source, .tags, .link]

def name : Field → Text
  | .title => "title"
  | .company => "company"
  | .date => "date_posted"
  | .location => "location"
  | .pay => "remuneration"
  | .source => "source"
  | .tags => "tags"
  | .link => "apply_link"

def ofName? (s : Text) : Option Field := all.find? fun f => f.name == s

def value (posting : Posting) : Field → List Text
  | .title => [posting.title]
  | .company => [posting.company]
  | .date => [posting.date]
  | .location => [posting.location]
  | .pay => [posting.pay]
  | .source => [posting.source]
  | .tags => posting.tags.names
  | .link => [posting.link]

def values (fields : List Field) (posting : Posting) : List (List Text) := fields.map (value posting)

def le (fields : List Field) (a b : Entry) : Bool :=
  (List.compareLex (List.compareLex Text.compare) (values fields a.posting) (values fields b.posting)).isLE

def named (s : Text) : Except Fault Field :=
  match ofName? s with
  | some f => .ok f
  | none => .error (.unknownField s)

/-- Entries sorted by fields, those that agree in them kept in order; with nothing to sort, no name is looked at. -/
def sort (names : List Text) (descending : Bool) (entries : List Entry) : Except Fault (List Entry) :=
  if entries.isEmpty then .ok []
  else do
    let fields ← names.mapM named
    .ok (entries.mergeSort fun a b => if descending then le fields b a else le fields a b)

end Field
end JobBoards
