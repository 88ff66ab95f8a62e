import TypedClient.Text.Lowercase

namespace TypedClient.Text

/-- How far a text has been put into snake case: what is written, the last character first, and
whether the character before was a small letter. -/
structure SnakeState where
  written : List Char
  afterSmall : Bool

def snakeStep (state : SnakeState) (c : Char) : SnakeState :=
  if isUpper c then
    { written := lowerChar c :: (if state.afterSmall then '_' :: state.written else state.written)
      afterSmall := false }
  else if isAlphanumeric c then
    { written := c :: state.written
      afterSmall := isLower c }
  else
    { written :=
        if !state.written.isEmpty && state.written.head? != some '_' then '_' :: state.written
        else state.written
      afterSmall := false }

def trimEnds (isTrimmed : Char → Bool) (text : List Char) : List Char :=
  ((text.dropWhile isTrimmed).reverse.dropWhile isTrimmed).reverse

def snakeChars (text : List Char) : List Char :=
  trimEnds (· == '_') (text.foldl snakeStep ⟨[], false⟩).written.reverse

def extendFirst (c : Char) : List (List Char) → List (List Char)
  | [] => [[c]]
  | part :: parts => (c :: part) :: parts

def partsBetween (isSeparator : Char → Bool) : List Char → List (List Char)
  | [] => []
  | c :: rest =>
    if isSeparator c then partsBetween isSeparator rest
    else match rest with
      | [] => [[c]]
      | d :: _ =>
        if isSeparator d then [c] :: partsBetween isSeparator rest
        else extendFirst c (partsBetween isSeparator rest)

def joinWith (separator : List Char) : List (List Char) → List Char
  | [] => []
  | [part] => part
  | part :: rest => part ++ separator ++ joinWith separator rest

def capitalize : List Char → List Char
  | [] => []
  | c :: rest => upperChar c :: rest

def decapitalize : List Char → List Char
  | [] => []
  | c :: rest => lowerChar c :: rest

def upperCamelChars (text : List Char) : List Char :=
  ((partsBetween (· == '_') (snakeChars text)).map capitalize).flatten

def snakeCase (text : String) : String :=
  String.ofList (snakeChars text.toList)

def upperCamelCase (text : String) : String :=
  String.ofList (upperCamelChars text.toList)

def lowerCamelCase (text : String) : String :=
  String.ofList (decapitalize (upperCamelChars text.toList))

end TypedClient.Text
