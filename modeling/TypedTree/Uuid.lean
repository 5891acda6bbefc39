namespace TypedTree

structure Uuid where
  digits : List (Fin 16)
deriving DecidableEq, Repr, Inhabited

namespace Uuid

def digit? (c : Char) : Option (Fin 16) :=
  if c.isDigit then some (Fin.ofNat 16 (c.toNat - '0'.toNat))
  else if 'a' ≤ c && c ≤ 'f' then some (Fin.ofNat 16 (c.toNat - 'a'.toNat + 10))
  else if 'A' ≤ c && c ≤ 'F' then some (Fin.ofNat 16 (c.toNat - 'A'.toNat + 10))
  else none

def digitChar (digit : Fin 16) : Char := Nat.digitChar digit.val

/-- Drops the four hyphens of the grouped form; other texts stay as they are. -/
def ungroup (cs : List Char) : List Char :=
  let groups := [cs.take 8, (cs.drop 9).take 4, (cs.drop 14).take 4, (cs.drop 19).take 4,
    cs.drop 24]
  let hyphens := [cs[8]?, cs[13]?, cs[18]?, cs[23]?]
  if cs.length = 36 && hyphens.all (· == some '-') then groups.flatten else cs

/-- Takes off the braces or the `urn:uuid:` around the grouped form. -/
def unwrap (cs : List Char) : List Char :=
  if cs.length = 38 && cs.head? == some '\x7b' && cs.getLast? == some '\x7d' then
    (cs.drop 1).take 36
  else if cs.length = 45 && (cs.take 9).map Char.toLower == "urn:uuid:".toList then cs.drop 9
  else cs

/-- Reads 32 digits without hyphens, or the grouped form, which may stand in braces or after
`urn:uuid:`. Letters may be of either case. -/
def parse? (text : String) : Option Uuid := do
  let digits ← (ungroup (unwrap text.toList)).mapM digit?
  if digits.length = 32 then some ⟨digits⟩ else none

def text (uuid : Uuid) : String :=
  let cs := uuid.digits.map digitChar
  String.ofList (cs.take 8 ++ '-' :: (cs.drop 8).take 4 ++ '-' :: (cs.drop 12).take 4 ++
    '-' :: (cs.drop 16).take 4 ++ '-' :: cs.drop 20)

end Uuid

end TypedTree
