namespace ServiceDiagram.Text

/-- Replaces `old`, wherever it stands from left to right, after passing over `skip`
characters. -/
def replaceAfter (old new : List Char) : Nat → List Char → List Char
  | _, [] => []
  | skip + 1, _ :: rest => replaceAfter old new skip rest
  | 0, c :: rest =>
    if old.isPrefixOf (c :: rest) then new ++ replaceAfter old new (old.length - 1) rest
    else c :: replaceAfter old new 0 rest

/-- Replaces every occurrence of a text that is not empty. -/
def replaceAll (old new cs : List Char) : List Char := replaceAfter old new 0 cs

/-- The parts of a text between the characters of a class. -/
def splitWhere (isSep : Char → Bool) : List Char → List (List Char)
  | [] => [[]]
  | c :: rest =>
    match splitWhere isSep rest with
    | [] => [[c]]
    | part :: parts => if isSep c then [] :: part :: parts else (c :: part) :: parts

/-- The parts of a text between the occurrences of a character. -/
def splitOn (sep : Char) (cs : List Char) : List (List Char) := splitWhere (· == sep) cs

/-- The text before the first occurrence of a character, and the text after it if there is
one. -/
def partition (sep : Char) : List Char → List Char × Option (List Char)
  | [] => ([], none)
  | c :: rest =>
    if c = sep then ([], some rest)
    else
      let (before, after) := partition sep rest
      (c :: before, after)

end ServiceDiagram.Text
