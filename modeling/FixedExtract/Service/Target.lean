import FixedExtract.Text.Integer
import FixedExtract.Text.Class
/-!
# Targets of requests

The target of a request is an address: a scheme, an authority, a path, a query and a fragment, of which only the
path says what is asked for. Relative addresses are taken from the root of the service, and dots in a path lead
to where it is or one step up. Escapes are resolved twice, once by whoever sends the request and once by whoever
takes it.
-/

namespace FixedExtract.Service

/-- Why a target cannot be asked for. -/
inductive TargetFault where
  | invalid
  | conversation
  | unknownScheme (scheme : Text)
  deriving DecidableEq, Repr

/-- The longest address. -/
def maxTargetLength : Nat := 65536

/-- May the character not stand in an address? -/
def isControl (c : Char) : Bool := Nat.blt c.toNat 32 || c.toNat = 127

/-- A character inside the name of a scheme. -/
def isSchemeChar (c : Char) : Bool :=
  Text.isAsciiLetter c || Text.isAsciiDigit c || c = '+' || c = '.' || c = '-'

/-- Takes the scheme off an address; there may be a colon without one. -/
def takeScheme (text : Text) : Text × Text :=
  let scheme := text.takeWhile isSchemeChar
  let isName := match scheme with
    | [] => true
    | c :: _ => Text.isAsciiLetter c
  match text.drop scheme.length with
  | ':' :: rest => if isName then (scheme, rest) else ([], text)
  | _ => ([], text)

/-- Does the character end an authority? -/
def endsAuthority (c : Char) : Bool := c = '/' || c = '?' || c = '#'

/-- Takes the authority off an address without its scheme. -/
def takeAuthority : Text → Text × Text
  | '/' :: '/' :: rest =>
    (rest.takeWhile fun c => !endsAuthority c, rest.dropWhile fun c => !endsAuthority c)
  | text => ([], text)

/-- The path of an address without scheme and authority. -/
def takePath (text : Text) : Text := text.takeWhile fun c => !(c = '?' || c = '#')

/-- The host of an authority, which may have a user in front of it and a number behind it. -/
structure Authority where
  host : Text
  isEmpty : Bool
  deriving DecidableEq, Repr

/-- Reads an authority; its number has to be an integer. -/
def Authority.read? (text : Text) : Option Authority :=
  let place := (text.reverse.takeWhile (· ≠ '@')).reverse
  let host := match place with
    | '[' :: _ => (place.reverse.dropWhile (· ≠ ']')).reverse
    | _ => []
  let host := if host.isEmpty then place.takeWhile (· ≠ ':') else host
  let number := match place.drop host.length with
    | ':' :: number => number
    | number => number
  let hasNumber := !number.isEmpty
  if hasNumber && !(Text.readInteger 10 number).isOk then none
  else some ⟨host, host.isEmpty && !hasNumber && place.length + 1 ≥ text.length⟩

/-- Drops the parts of a path that are dots: one dot changes nothing, two take back the part before. -/
def resolveDots (path : Text) : Text :=
  let parts := (Text.splitOn '/' path).foldl (fun (kept : List Text) part =>
    if part = ['.'] then kept
    else if part = ['.', '.'] then (if kept = [[]] then kept else kept.drop 1)
    else part :: kept) []
  Text.join ['/'] parts.reverse

/-- Resolves the escapes that stand for characters of ASCII. -/
def unescaped : Text → Text
  | '%' :: high :: low :: rest =>
    match Text.hexDigit? high, Text.hexDigit? low with
    | some h, some l =>
      if h < 8 then Char.ofNat (h * 16 + l) :: unescaped rest
      else '%' :: unescaped (high :: low :: rest)
    | _, _ => '%' :: unescaped (high :: low :: rest)
  | c :: rest => c :: unescaped rest
  | [] => []
  termination_by text => text.length

/-- The path that a target asks for. -/
def pathOf (target : Text) : Except TargetFault Text :=
  if target.length > maxTargetLength || target.any isControl then .error .invalid
  else
    let (scheme, rest) := takeScheme target
    let (authorityText, rest) := takeAuthority rest
    let path := takePath rest
    match Authority.read? authorityText with
    | none => .error .invalid
    | some authority =>
      let isBare := scheme.isEmpty && authority.isEmpty
      if isBare && (path.head? = some ':' || path.take 2 = ['/', '/']) then .error .invalid
      else if scheme.isEmpty || authority.host.isEmpty then
        let path := if isBare then path else resolveDots path
        .ok (unescaped (unescaped (resolveDots ('/' :: path.dropWhile (· = '/')))))
      else
        let scheme := scheme.map Char.toLower
        if ["http".toList, "https".toList].elem scheme then .ok (unescaped (unescaped (resolveDots path)))
        else if ["ws".toList, "wss".toList].elem scheme then .error .conversation
        else .error (.unknownScheme scheme)

end FixedExtract.Service
