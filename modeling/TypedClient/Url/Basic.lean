import TypedClient.Url.Host

namespace TypedClient.Url

def significant (location : String) : List Char :=
  let isOuter := fun (c : Char) => c.toNat ≤ 0x20
  let text := ((location.toList.dropWhile isOuter).reverse.dropWhile isOuter).reverse
  text.filter fun c => c != '\t' && c != '\n' && c != '\r'

def scheme? (text : List Char) : Option (String × List Char) :=
  let (name, rest) := text.span fun c => Text.isAsciiAlphanumeric c || "+-.".toList.contains c
  match rest with
  | ':' :: rest =>
    if name.head?.any Text.isAsciiLetter then some (String.ofList (name.map Char.toLower), rest)
    else none
  | _ => none

def isSlash (c : Char) : Bool := c == '/' || c == '\\'

def authority (text : List Char) : List Char :=
  (text.dropWhile isSlash).takeWhile fun c => !isSlash c && c != '?' && c != '#'

def withoutUser (text : List Char) : List Char :=
  (text.reverse.takeWhile (· != '@')).reverse

def splitAtColon (inBrackets : Bool) : List Char → List Char × Option (List Char)
  | [] => ([], none)
  | c :: rest =>
    if c = ':' ∧ !inBrackets then ([], some rest)
    else
      let inBrackets := if c = '[' then true else if c = ']' then false else inBrackets
      let (before, after?) := splitAtColon inBrackets rest
      (c :: before, after?)

def isServiceNumber (text : List Char) : Bool :=
  text.isEmpty || (Decimal.ofDigits? 10 text).any (Decimal.fitsUnsigned 16)

def isWebAddress (location : String) : Bool :=
  match scheme? (significant location) with
  | some (scheme, rest) =>
    (scheme == "http" || scheme == "https") &&
      let (host, service?) := splitAtColon false (withoutUser (authority rest))
      isHost host && service?.all isServiceNumber
  | none => false

end TypedClient.Url
