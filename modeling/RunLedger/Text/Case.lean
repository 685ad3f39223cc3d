import RunLedger.Text.CaseTable

/-!
# Upper and lower case

Case conversion of whole texts by the tables of the Unicode character database.  One rule looks at
the neighbours: a capital sigma becomes `ς` at the end of a word and `σ` elsewhere.
-/

namespace RunLedger.Text

/-- The characters of a code point in another case: its listed expansion, else its shifted self. -/
def convertCase (runs : List CaseRun) (expansions : List (Nat × List Nat)) (c : Char) :
    List Char :=
  match expansions.lookup c.toNat with
  | some codes => codes.map Char.ofNat
  | none => [Char.ofNat (shiftCase runs c.toNat)]

/-- A character in lower case, away from the rule for the capital sigma. -/
def lowerChar (c : Char) : List Char := convertCase lowerRuns lowerExpansions c

def upperChar (c : Char) : List Char := convertCase upperRuns upperExpansions c

/-- Whether case rules look through the character. -/
def isCaseIgnorable (c : Char) : Bool := inRanges caseIgnorableRanges c.toNat

/-- Whether the next character that case rules see, if any, is a letter with case. -/
def meetsCased (cs : List Char) : Bool :=
  match cs.dropWhile isCaseIgnorable with
  | [] => false
  | c :: _ => inRanges casedRanges c.toNat

/-- Lower case of the text that follows `before`, which is given last character first. -/
def lowerAfter (before : List Char) : List Char → List Char
  | [] => []
  | c :: rest =>
    let here :=
      -- a sigma that ends a word has a small letter of its own
      if c = 'Σ' then (if meetsCased before && !meetsCased rest then ['ς'] else ['σ'])
      else lowerChar c
    here ++ lowerAfter (c :: before) rest

def lower (cs : List Char) : List Char := lowerAfter [] cs

def upper (cs : List Char) : List Char := cs.flatMap upperChar

def lowered (s : String) : String := String.ofList (lower s.toList)

def uppered (s : String) : String := String.ofList (upper s.toList)

/-- A string with the letters A to Z in lower case and all else unchanged. -/
def asciiLowered (s : String) : String := String.ofList (s.toList.map Char.toLower)

end RunLedger.Text
