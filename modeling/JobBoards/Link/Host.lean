import JobBoards.Fault
import JobBoards.Text.Digit
namespace JobBoards.Host

/-- Characters that look like a delimiter of links once they are normalised. -/
def lookalikes : List Nat :=
  [0x2047, 0x2048, 0x2049, 0x2100, 0x2101, 0x2105, 0x2106, 0x2A74, 0xFE13, 0xFE16, 0xFE55, 0xFE56,
   0xFE5F, 0xFE6B, 0xFF03, 0xFF0F, 0xFF1A, 0xFF1F, 0xFF20]

def isOctet (s : Text) : Bool :=
  !s.isEmpty && s.all Text.isDigit && decide (s.length ≤ 3) && (s == ['0'] || s.head? != some '0') &&
    decide (Text.Digit.number (s.filterMap Text.Digit.value?) ≤ 255)

def isShortAddress (s : Text) : Bool :=
  let octets := Text.splitOn '.' s
  octets.length == 4 && octets.all isOctet

def isGroup (s : Text) : Bool :=
  !s.isEmpty && s.all (fun c => (Text.hexValue? c).isSome) && decide (s.length ≤ 4)

def groups? (s : Text) : Option (List Text) :=
  let parts := Text.splitOn ':' s
  let last := parts.getLastD []
  if parts.length < 3 then none
  else if last.contains '.' then
    if isShortAddress last then some (parts.dropLast ++ [['0'], ['0']]) else none
  else some parts

/-- Eight groups, or fewer where one gap stands for the groups left out. -/
def isGrouped (parts : List Text) : Bool :=
  let inner := (parts.drop 1).dropLast
  let first := parts.headD []
  let last := parts.getLastD []
  match (inner.zipIdx.filter fun p => p.1.isEmpty).map Prod.snd with
  | [] => parts.length == 8 && parts.all isGroup
  | [gap] =>
      let before := parts.take (gap + 1)
      let after := parts.drop (gap + 2)
      let before := if first.isEmpty then before.drop 1 else before
      let after := if last.isEmpty then after.dropLast else after
      (!first.isEmpty || before.isEmpty) && (!last.isEmpty || after.isEmpty) &&
        decide (before.length + after.length < 8) && before.all isGroup && after.all isGroup
  | _ => false

def isLongAddress (s : Text) : Bool :=
  let address := s.takeWhile (· != '%')
  let zone := s.drop address.length
  let zoneIsGood := zone.isEmpty || (decide (1 < zone.length) && !(zone.drop 1).contains '%')
  zoneIsGood && match groups? address with
    | some parts => decide (parts.length ≤ 9) && isGrouped parts
    | none => false

def isFuture : Text → Bool
  | 'v' :: s =>
      let digits := s.takeWhile fun c => (Text.hexValue? c).isSome
      match s.drop digits.length with
      | '.' :: c :: r => !digits.isEmpty && (c :: r).all (· != '\n')
      | _ => false
  | _ => false

def checkBracketed (s : Text) : Except Fault Unit :=
  if s.head? = some 'v' then (if isFuture s then .ok () else .error .futureHostMalformed)
  else if isShortAddress s then .error .hostAddressTooShort
  else if isLongAddress s then .ok ()
  else .error (.hostNotAddress s)

def checkBrackets (authority : Text) : Except Fault Unit :=
  match authority.contains '[', authority.contains ']' with
  | true, true =>
      checkBracketed (((authority.dropWhile (· != '[')).drop 1).takeWhile (· != ']'))
  | false, false => .ok ()
  | _, _ => .error .malformedHost

def checkNormal (authority : Text) : Except Fault Unit :=
  if authority.any fun c => lookalikes.contains c.toNat then .error (.hostNotNormal authority) else .ok ()

end JobBoards.Host
