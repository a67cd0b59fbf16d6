
namespace DependencyAtlas.Text

def lower (c : Char) : Char :=
  if 'A' ≤ c && c ≤ 'Z' then Char.ofNat (c.toNat + 0x20) else c

def upper (c : Char) : Char :=
  if 'a' ≤ c && c ≤ 'z' then Char.ofNat (c.toNat - 0x20) else c

def isLetter (c : Char) : Bool :=
  let c := lower c
  'a' ≤ c && c ≤ 'z'

end DependencyAtlas.Text
