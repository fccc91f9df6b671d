import ServiceDiagram.Format.IpAddress
import ServiceDiagram.Text.Quoted
import ServiceDiagram.Text.Ranges

namespace ServiceDiagram.Uri

/-- Why the authority of an address is not one. -/
inductive AuthorityError where
  | unpairedBracket
  | badFutureHost
  | noAddress (host : String)
  | bracketsAroundV4
  | compatibilityCharacter (authority : String)
  deriving DecidableEq, Repr

def AuthorityError.message : AuthorityError → String
  | unpairedBracket => "Invalid IPv6 URL"
  | badFutureHost => "IPvFuture address is invalid"
  | noAddress host => Text.quoted host ++ " does not appear to be an IPv4 or IPv6 address"
  | bracketsAroundV4 => "An IPv4 address cannot be in brackets"
  | compatibilityCharacter authority =>
    "netloc '" ++ authority ++ "' contains invalid characters under NFKC normalization"

/-- Whether a character may stand in a scheme. -/
def isSchemeChar (c : Char) : Bool :=
  Text.isAsciiLetter c || Text.isAsciiDigit c || c == '+' || c == '-' || c == '.'

/-- Splits the scheme off an address; it begins with a letter. -/
def splitScheme (cs : List Char) : List Char × List Char :=
  match Text.partition ':' cs with
  | (scheme, some rest) =>
    if (scheme.head?.map Text.isAsciiLetter).getD false && scheme.all isSchemeChar then
      (scheme, rest)
    else ([], cs)
  | _ => ([], cs)

/-- The authority of an address without its scheme. -/
def authorityOf : List Char → List Char
  | '/' :: '/' :: rest => rest.takeWhile fun c => c != '/' && c != '?' && c != '#'
  | _ => []

/-- The code points whose compatibility form holds one of the characters `/?#@:`. -/
def delimiterLikeRanges : List (Nat × Nat) :=
  [(8263, 8265), (8448, 8449), (8453, 8454), (10868, 10868), (65043, 65043), (65046, 65046),
   (65109, 65110), (65119, 65119), (65131, 65131), (65283, 65283), (65295, 65295),
   (65306, 65306), (65311, 65312)]

/-- Whether a host is an address of a future version: a letter, a version and something. -/
def isFutureHost : List Char → Bool
  | 'v' :: rest =>
    let (version, after) := rest.span fun c => (Text.hexValue? c).isSome
    match after with
    | '.' :: c :: _ => !version.isEmpty && c != '\n'
    | _ => false
  | _ => false

/-- Checks the host that stands between brackets. -/
def checkBracketed (host : List Char) : Except AuthorityError Unit :=
  if host.head? = some 'v' then
    if isFutureHost host then .ok () else .error .badFutureHost
  else if IpAddress.isV4 host then .error .bracketsAroundV4
  else if IpAddress.isV6 host then .ok ()
  else .error (.noAddress (String.ofList host))

/-- Checks that brackets are paired and hold an address. -/
def checkBrackets (authority : List Char) : Except AuthorityError Unit :=
  match authority.contains '[', authority.contains ']' with
  | false, false => .ok ()
  | true, true =>
    let opened := ((Text.partition '[' authority).2).getD []
    checkBracketed (Text.partition ']' opened).1
  | _, _ => .error .unpairedBracket

/-- Checks that no character looks like a delimiter. -/
def checkCharacters (authority : List Char) : Except AuthorityError Unit :=
  if authority.any fun c => Text.inRanges c.toNat delimiterLikeRanges then
    .error (.compatibilityCharacter (String.ofList authority))
  else .ok ()

/-- Whether a character is passed over in front of an address. -/
def isLeading (c : Char) : Bool := decide (c.toNat ≤ 0x20)

/-- Whether a text has a scheme and an authority. Controls and spaces in front are passed over, line
breaks and tabs anywhere. -/
def accepts (s : String) : Except AuthorityError Bool := do
  let cs := (s.toList.dropWhile isLeading).filter fun c => c != '\t' && c != '\r' && c != '\n'
  let (scheme, rest) := splitScheme cs
  let authority := authorityOf rest
  checkBrackets authority
  checkCharacters authority
  return !scheme.isEmpty && !authority.isEmpty

end ServiceDiagram.Uri
