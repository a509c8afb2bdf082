import JobBoards.Text.Case.Table
namespace JobBoards.Text
open Case

def shifted (runs : List Run) (c : Char) : Char :=
  match runs.find? fun r => r.covers c.toNat with
  | some r => Char.ofNat ((c.toNat : Int) + r.shift).toNat
  | none => c

def isCased (c : Char) : Bool := inRanges casedRanges c.toNat

def isCaseIgnorable (c : Char) : Bool := inRanges ignorableRanges c.toNat

def lowerOf (c : Char) : Text :=
  if c.toNat < 128 then [c.toLower]
  else if c.toNat = 0x130 then ['i', Char.ofNat 0x307]
  else [shifted lowerRuns c]

def upperOf (c : Char) : Text :=
  if c.toNat < 128 then [c.toUpper]
  else match upperExpansions.lookup c.toNat with
    | some codes => codes.map Char.ofNat
    | none => [shifted upperRuns c]

def startsCased (s : Text) : Bool :=
  match s.dropWhile isCaseIgnorable with
  | [] => false
  | c :: _ => isCased c

/-- A capital sigma that ends a word becomes the final small sigma: a cased character comes before it and
none after it, characters that case ignores left aside. -/
def lowerAfter (cased : Bool) : Text → Text
  | [] => []
  | c :: s =>
      (if c.toNat = 0x3A3 then
        [Char.ofNat (if cased && !startsCased s then 0x3C2 else 0x3C3)]
      else lowerOf c) ++ lowerAfter (if isCaseIgnorable c then cased else isCased c) s

def lower (s : Text) : Text := lowerAfter false s

def upper (s : Text) : Text := s.flatMap upperOf

end JobBoards.Text
