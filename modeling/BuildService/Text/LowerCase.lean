import BuildService.Text.CaseTable
/-!
Lower case for all of Unicode.

Every character goes to its lower-case letter by itself, with two exceptions: a
capital I with a dot becomes two characters, and a capital sigma becomes the
final form at the end of a word.
-/

set_option autoImplicit false

namespace BuildService.Text

/-- The lower-case letter of one character, the two exceptions apart. -/
def lowerChar (c : Char) : Char :=
  let n := c.toNat
  if n < 0x80 then c.toLower
  else match caseRuns.find? (fun r => r.first ≤ n && n ≤ r.last && (n - r.first) % r.step == 0) with
    | some r => Char.ofNat ((n : Int) + r.shift).toNat
    | none => c

/-- Upper-case, lower-case and title-case letters. -/
def isCased (c : Char) : Bool := withinEdges casedEdges c.toNat

/-- Characters that the search for a neighbouring letter passes over. -/
def isCaseIgnorable (c : Char) : Bool := withinEdges ignorableEdges c.toNat

/-- The next character that counts, in the direction given, is a letter with case. -/
def nextIsCased (cs : List Char) : Bool :=
  (cs.dropWhile isCaseIgnorable).head?.any isCased

/-- The lower case of the characters `after`, where `before` holds the ones in front of them, the
nearest first. -/
def lowerFrom (before : List Char) : List Char → List Char
  | [] => []
  | c :: after =>
    let low :=
      if c = '\u0130' then ['i', '\u0307']
      else if c = '\u03A3' then
        if nextIsCased before && !nextIsCased after then ['\u03C2'] else ['\u03C3']
      else [lowerChar c]
    low ++ lowerFrom (c :: before) after

def lowerCase (s : String) : String := String.ofList (lowerFrom [] s.toList)

end BuildService.Text
