import JobBoards.Link.Host
namespace JobBoards

structure Link where
  scheme : Text
  authority : Text
  path : Text
  parameters : Text
  query : Text
  fragment : Text
  deriving DecidableEq, Repr

namespace Link

def relativeSchemes : List Text :=
  ["", "ftp", "http", "gopher", "nntp", "imap", "wais", "file", "https", "shttp", "mms", "prospero", "rtsp",
   "rtsps", "rtspu", "sftp", "svn", "svn+ssh", "ws", "wss"]

def hostSchemes : List Text :=
  ["", "ftp", "http", "gopher", "nntp", "telnet", "imap", "wais", "file", "mms", "https", "shttp", "snews",
   "prospero", "rtsp", "rtsps", "rtspu", "rsync", "svn", "svn+ssh", "sftp", "nfs", "git", "git+ssh", "ws",
   "wss"]

def parameterSchemes : List Text :=
  ["", "ftp", "hdl", "prospero", "http", "imap", "https", "shttp", "rtsp", "rtsps", "rtspu", "sip", "sips",
   "mms", "sftp", "tel"]

def isSchemeChar (c : Char) : Bool :=
  Text.isLetter c || Text.isDigit c || c == '+' || c == '-' || c == '.'

def cut (c : Char) (s : Text) : Text × Text :=
  (s.takeWhile (· != c), (s.dropWhile (· != c)).drop 1)

def scheme? (s : Text) : Option (Text × Text) :=
  let (name, rest) := cut ':' s
  if s.contains ':' && (s.head?.any Text.isLetter) && name.all isSchemeChar then
    some (name.map Char.toLower, rest)
  else none

def isDelimiter (c : Char) : Bool := c == '/' || c == '?' || c == '#'

def splitParameters (path : Text) : Text × Text :=
  let last := (path.reverse.takeWhile (· != '/')).reverse
  if last.contains ';' then
    let (segment, parameters) := cut ';' last
    (path.take (path.length - last.length) ++ segment, parameters)
  else (path, [])

/-- Controls and blanks before a link, and line breaks and tabs in it, are left out. -/
def cleaned (s : Text) : Text :=
  (s.dropWhile fun c => decide (c.toNat ≤ 32)).filter fun c => !(c == '\t' || c == '\r' || c == '\n')

def split (scheme s : Text) : Except Fault Link := do
  let s := cleaned s
  let (scheme, s) := (scheme? s).getD (scheme, s)
  let (authority, s) :=
    match s with
    | '/' :: '/' :: r => (r.takeWhile fun c => !isDelimiter c, r.dropWhile fun c => !isDelimiter c)
    | r => ([], r)
  Host.checkBrackets authority
  let (s, fragment) := cut '#' s
  let (path, query) := cut '?' s
  Host.checkNormal authority
  let (path, parameters) :=
    if parameterSchemes.contains scheme then splitParameters path else (path, [])
  .ok ⟨scheme, authority, path, parameters, query, fragment⟩

def part (mark : Char) (s : Text) : Text := if s.isEmpty then [] else mark :: s

/-- Two slashes come before an authority, before a path that begins with two, and wherever the scheme has hosts. -/
def text (l : Link) : Text :=
  let path := l.path ++ part ';' l.parameters
  let path :=
    if !l.authority.isEmpty || (!l.scheme.isEmpty && hostSchemes.contains l.scheme) ||
        path.take 2 == ['/', '/'] then
      ['/', '/'] ++ l.authority ++
        if path.isEmpty || path.head? == some '/' then path else '/' :: path
    else path
  (if l.scheme.isEmpty then [] else l.scheme ++ [':']) ++ path ++ part '?' l.query ++ part '#' l.fragment

def resolveSegments (segments : List Text) : List Text :=
  segments.foldl (fun done segment =>
    if segment = ['.', '.'] then done.dropLast
    else if segment = ['.'] then done
    else done ++ [segment]) []

def withoutEmpty : List Text → List Text
  | [] => []
  | first :: rest => first :: rest.dropLast.filter (fun s => !s.isEmpty) ++ rest.drop (rest.length - 1)

def joinPath (base path : Text) : Text :=
  let segments :=
    if path.head? = some '/' then Text.splitOn '/' path
    else
      let above := Text.splitOn '/' base
      let above := if above.getLastD [] = [] then above else above.dropLast
      withoutEmpty (above ++ Text.splitOn '/' path)
  let last := segments.getLastD []
  let resolved := resolveSegments segments ++ if last = ['.'] ∨ last = ['.', '.'] then [[]] else []
  match Text.join ['/'] resolved with
  | [] => ['/']
  | s => s

def resolve (base link : Text) : Except Fault Text :=
  if base.isEmpty then .ok link
  else if link.isEmpty then .ok base
  else do
    let b ← split [] base
    let l ← split b.scheme link
    if l.scheme ≠ b.scheme ∨ ¬ relativeSchemes.contains l.scheme then .ok link
    else if hostSchemes.contains l.scheme && !l.authority.isEmpty then .ok l.text
    else
      let authority := if hostSchemes.contains l.scheme then b.authority else l.authority
      if l.path.isEmpty && l.parameters.isEmpty then
        .ok (Link.text ⟨l.scheme, authority, b.path, b.parameters,
          if l.query.isEmpty then b.query else l.query, l.fragment⟩)
      else .ok (Link.text ⟨l.scheme, authority, joinPath b.path l.path, l.parameters, l.query, l.fragment⟩)

end Link
end JobBoards
