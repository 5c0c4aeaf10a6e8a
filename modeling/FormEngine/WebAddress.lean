import FormEngine.Fault
import FormEngine.Text.Compatibility

/-!
# Web addresses

An address counts as one of the web when its scheme is `http` or `https` and a host part follows.
The host part is not looked at closely, but three kinds of it are faults: unbalanced brackets,
brackets around something that is no address of version 6, and characters that hide a delimiter.
-/

namespace FormEngine.WebAddress

/-- Control characters and the space, which may precede an address. -/
def isLeading (c : Char) : Bool :=
  c.toNat ≤ 0x20

/-- Characters that an address is freed of before it is read. -/
def isDropped (c : Char) : Bool :=
  c == '\t' || c == '\r' || c == '\n'

/-- A character of a scheme. -/
def isSchemeChar (c : Char) : Bool :=
  c.isAlphanum || c == '+' || c == '-' || c == '.'

/-- Splits off a scheme in lower case. Without a colon behind a well formed scheme there is none. -/
def splitScheme (address : List Char) : List Char × List Char :=
  let scheme := address.takeWhile (· != ':')
  match address.drop scheme.length with
  | ':' :: rest =>
    if scheme.head?.any Char.isAlpha && scheme.all isSchemeChar then
      (scheme.map Char.toLower, rest)
    else ([], address)
  | _ => ([], address)

/-- The host part, which stands between two slashes and the next delimiter. -/
def hostPart : List Char → List Char
  | '/' :: '/' :: rest => rest.takeWhile fun c => c != '/' && c != '?' && c != '#'
  | _ => []

/-- Splits a text at every occurrence of a character. -/
def splitAll (separator : Char) (text : List Char) : List (List Char) :=
  text.foldr (fun c parts => match parts with
    | [] => [[c]]
    | part :: rest => if c == separator then [] :: part :: rest else (c :: part) :: rest) [[]]

/-- A decimal number from 0 to 255 without leading zeros. -/
def isOctet (text : List Char) : Bool :=
  !text.isEmpty && text.length ≤ 3 && text.all Char.isDigit
    && (text.length == 1 || text.head? != some '0')
    && text.foldl (fun total c => 10 * total + (c.toNat - '0'.toNat)) 0 ≤ 255

/-- An address of version 4. -/
def isVersion4 (host : List Char) : Bool :=
  let parts := splitAll '.' host
  parts.length == 4 && parts.all isOctet

/-- A part of an address of version 6. -/
def isHextet (text : List Char) : Bool :=
  !text.isEmpty && text.length ≤ 4
    && text.all fun c => c.isDigit || ('a' ≤ c && c ≤ 'f') || ('A' ≤ c && c ≤ 'F')

/-- Whether parts between colons form an address. One inner part may be empty and then stands for
the missing parts; an empty part at an end belongs to it. -/
def areHextets (parts : List (List Char)) : Bool :=
  let inner := (parts.drop 1).dropLast
  let gaps := inner.countP List.isEmpty
  if parts.length < 3 || parts.length > 9 then false
  else if gaps == 0 then parts.length == 8 && parts.all isHextet
  else
    let low := (parts.drop 1).takeWhile (!·.isEmpty)
    let head := parts.headD []
    let high := parts.drop (low.length + 2)
    let last := high.getLastD []
    let before := if head.isEmpty then low else head :: low
    let behind := if last.isEmpty then high.dropLast else high
    gaps == 1 && (!head.isEmpty || low.isEmpty) && (!last.isEmpty || behind.isEmpty)
      && before.length + behind.length ≤ 7 && before.all isHextet && behind.all isHextet

/-- Replaces an address of version 4 in the last part by two parts. -/
def expandLast (parts : List (List Char)) : Option (List (List Char)) :=
  let last := parts.getLastD []
  if parts.length < 3 then some parts
  else if !last.contains '.' then some parts
  else if isVersion4 last then some (parts.dropLast ++ [['0'], ['0']])
  else none

/-- Splits off a zone behind a percent sign, which must be there then. -/
def splitZone (host : List Char) : Option (List Char) :=
  let address := host.takeWhile (· != '%')
  match host.drop address.length with
  | [] => some address
  | _ :: zone => if zone.isEmpty || zone.contains '%' then none else some address

/-- An address of version 6. -/
def isVersion6 (host : List Char) : Bool :=
  !host.contains '/' &&
    match splitZone host with
    | none => false
    | some address => ((expandLast (splitAll ':' address)).map areHextets).getD false

/-- An address of a future version: its number in hexadecimal digits, a point and more. -/
def isFuture (host : List Char) : Bool :=
  let number := (host.drop 1).takeWhile fun c =>
    c.isDigit || ('a' ≤ c && c ≤ 'f') || ('A' ≤ c && c ≤ 'F')
  match host.drop (1 + number.length) with
  | '.' :: rest => !number.isEmpty && !rest.isEmpty
  | _ => false

/-- Checks the host between brackets. -/
def checkBracketed (host : List Char) : Except Fault Unit :=
  if host.head? == some 'v' then
    if isFuture host then .ok () else .error .addressFuture
  else if isVersion4 host then .error .addressVersion4
  else if isVersion6 host then .ok ()
  else .error (.addressHost (String.ofList host))

/-- Checks the brackets of a host part. -/
def checkBrackets (host : List Char) : Except Fault Unit :=
  match host.contains '[', host.contains ']' with
  | false, false => .ok ()
  | true, true =>
    checkBracketed (((host.dropWhile (· != '[')).drop 1).takeWhile (· != ']'))
  | _, _ => .error .addressBrackets

/-- Checks that no character of a host part hides a delimiter. -/
def checkCompatibility (host : List Char) : Except Fault Unit :=
  if host.any Text.hidesDelimiter then .error (.addressCompatibility (String.ofList host))
  else .ok ()

/-- Whether a text is a web address. -/
def isValid (text : List Char) : Except Fault Bool := do
  let address := (text.dropWhile isLeading).filter (!isDropped ·)
  let (scheme, rest) := splitScheme address
  let host := hostPart rest
  checkBrackets host
  checkCompatibility host
  return (scheme == "http".toList || scheme == "https".toList) && !host.isEmpty

end FormEngine.WebAddress
