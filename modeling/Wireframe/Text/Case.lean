import Wireframe.Text.Characters
import Wireframe.Text.CaseRanges

/-!
# Letter case

* `lower` — the lower-case form of a text: letter by letter, except that a capital sigma at the end
  of a word takes its final form and a capital I with a dot becomes two characters.
* `sameLetter` — whether two letters agree when case is ignored.
-/

namespace Wireframe.Text

/-- The ASCII lower-case form of a character. -/
def lowerAscii (c : Char) : Char :=
  if 'A' ≤ c && c ≤ 'Z' then Char.ofNat (c.toNat + 32) else c

/-- The ASCII upper-case form of a character. -/
def upperAscii (c : Char) : Char :=
  if 'a' ≤ c && c ≤ 'z' then Char.ofNat (c.toNat - 32) else c

/-- The single lower-case form of a letter; other characters are their own. -/
def lowerChar (c : Char) : Char :=
  if c.toNat < 128 then lowerAscii c
  else if c.toNat = 0x130 then 'i'
  else
    match lowerRuns.find? fun (first, last, step, _) =>
        first ≤ c.toNat && c.toNat ≤ last && (c.toNat - first) % step == 0 with
    | some (_, _, _, distance) => Char.ofNat ((c.toNat : Int) + distance).toNat
    | none => c

def isCased (c : Char) : Bool := inRanges casedRanges c.toNat

/-- Whether a character is looked past when the neighbours of a letter are examined. -/
def isCaseIgnorable (c : Char) : Bool := inRanges caseIgnorableRanges c.toNat

/-- Whether the nearest character that counts is a letter with case. -/
def meetsCased (s : List Char) : Bool :=
  match s.dropWhile isCaseIgnorable with
  | [] => false
  | c :: _ => isCased c

/-- Whether a sigma between the given neighbours (nearest first on both sides) ends a word. -/
def isFinalSigma (before after : List Char) : Bool := meetsCased before && !meetsCased after

/-- Lower-cases a text whose reversed beginning is `before`. -/
def lowerFrom (before : List Char) : List Char → List Char
  | [] => []
  | c :: rest =>
    let form :=
      if c.toNat = 0x3a3 then [if isFinalSigma before rest then 'ς' else 'σ']
      else if c.toNat = 0x130 then ['i', Char.ofNat 0x307]
      else [lowerChar c]
    form ++ lowerFrom (c :: before) rest

def lower (s : List Char) : List Char := lowerFrom [] s

/-- Lower-case letters that share an upper-case form. -/
def letterVariants : List (List Nat) := [
  [0x69, 0x131], [0x73, 0x17f], [0xb5, 0x3bc], [0x345, 0x3b9, 0x1fbe], [0x390, 0x1fd3],
  [0x3b0, 0x1fe3], [0x3b2, 0x3d0], [0x3b5, 0x3f5], [0x3b8, 0x3d1], [0x3ba, 0x3f0], [0x3c0, 0x3d6],
  [0x3c1, 0x3f1], [0x3c2, 0x3c3], [0x3c6, 0x3d5], [0x432, 0x1c80], [0x434, 0x1c81],
  [0x43e, 0x1c82], [0x441, 0x1c83], [0x442, 0x1c84, 0x1c85], [0x44a, 0x1c86], [0x463, 0x1c87],
  [0x1c88, 0xa64b], [0x1e61, 0x1e9b], [0xfb05, 0xfb06]]

/-- Whether two characters are the same letter when case is ignored. -/
def sameLetter (a b : Char) : Bool :=
  let x := lowerChar a
  let y := lowerChar b
  x == y || letterVariants.any fun group => group.contains x.toNat && group.contains y.toNat

/-- What follows `word` at the start of a text, case ignored. -/
def dropWordIgnoringCase? : List Char → List Char → Option (List Char)
  | [], rest => some rest
  | _ :: _, [] => none
  | a :: word, c :: rest => if sameLetter a c then dropWordIgnoringCase? word rest else none

end Wireframe.Text
