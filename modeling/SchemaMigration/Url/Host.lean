/-!
# Hosts of URLs

A host is an address in brackets, a domain name, or, for schemes that no standard
gives a meaning to, any text without certain characters. Domain names whose last
part is a number are read as addresses of four parts.
-/

namespace SchemaMigration.Url

/-- Why a text is no URL. -/
inductive Fault where
  | relativeWithoutBase
  | invalidPort
  | emptyHost
  | invalidIpv4
  | invalidIpv6
  | invalidDomainCharacter
  | invalidDomainName
  deriving DecidableEq, Repr, Inhabited

/-- The text of a fault. -/
def Fault.message : Fault → String
  | relativeWithoutBase => "relative URL without a base"
  | invalidPort => "invalid port number"
  | emptyHost => "empty host"
  | invalidIpv4 => "invalid IPv4 address"
  | invalidIpv6 => "invalid IPv6 address"
  | invalidDomainCharacter => "invalid domain character"
  | invalidDomainName => "invalid international domain name"

/-! ## Digits -/

/-- Whether a character is a hexadecimal digit. -/
def isHex (c : Char) : Bool :=
  c.isDigit || ('a' ≤ c && c ≤ 'f') || ('A' ≤ c && c ≤ 'F')

/-- The value of a hexadecimal digit. -/
def hexValue (c : Char) : Nat :=
  if c.isDigit then c.toNat - '0'.toNat
  else if 'a' ≤ c && c ≤ 'f' then c.toNat - 'a'.toNat + 10
  else c.toNat - 'A'.toNat + 10

/-- The value of digits in a base. -/
def numeral (base : Nat) (cs : List Char) : Nat :=
  cs.foldl (fun n c => n * base + hexValue c) 0

/-! ## Addresses of four parts -/

/-- One part of an address: hexadecimal after `0x`, octal after `0`, or decimal. -/
def ipv4Number? (cs : List Char) : Option Nat :=
  let (base, digits) :=
    match cs with
    | '0' :: 'x' :: r | '0' :: 'X' :: r => (16, r)
    | '0' :: c :: r => (8, c :: r)
    | _ => (10, cs)
  let valid (c : Char) : Bool := if base = 16 then isHex c else c.isDigit && hexValue c < base
  if cs.isEmpty then none
  else if digits.all valid then some (numeral base digits)
  else none

/-- The parts of a name between dots; a final dot closes the last one. -/
def dotParts (cs : List Char) : List (List Char) :=
  let parts := cs.splitOn '.'
  if parts.length > 1 && parts.getLast? == some [] then parts.dropLast else parts

/-- Whether the last part of a name is a number, so that the name is an address. -/
def endsInNumber (cs : List Char) : Bool :=
  match (dotParts cs).getLast? with
  | none => false
  | some last => (!last.isEmpty && last.all Char.isDigit) || (ipv4Number? last).isSome

/-- Whether a name is an address: at most four numbers, all but the last of one byte,
and the last one filling the bytes that are left. -/
def isIpv4 (cs : List Char) : Bool :=
  let parts := dotParts cs
  match parts.mapM ipv4Number? with
  | none => false
  | some numbers =>
    numbers.length ≤ 4 &&
      numbers.dropLast.all (· ≤ 255) &&
      (numbers.getLast?.all fun n => n < Nat.pow 256 (5 - numbers.length))

/-! ## Addresses of eight parts -/

/-- Whether a text is the byte of a dotted address, without leading zeros. -/
def isByte (cs : List Char) : Bool :=
  !cs.isEmpty && cs.all Char.isDigit && (cs.length = 1 || cs.head? != some '0') &&
    numeral 10 cs ≤ 255

/-- Whether a text is a dotted address of four bytes. -/
def isDotted (cs : List Char) : Bool :=
  let parts := cs.splitOn '.'
  parts.length == 4 && parts.all isByte

/-- Whether the rest of an address in brackets is well formed, after `count` parts, with
or without a gap among them. A gap stands for at least one part. -/
def ipv6Rest (fuel count : Nat) (gap : Bool) (cs : List Char) : Bool :=
  match fuel with
  | 0 => false
  | fuel + 1 =>
    if cs.isEmpty then gap || count = 8
    else if count = 8 then false
    else
      match cs with
      | ':' :: r => !gap && ipv6Rest fuel (count + 1) true r
      | _ =>
        let digits := (cs.take 4).takeWhile isHex
        match cs.drop digits.length with
        | [] => ipv6Rest fuel (count + 1) gap []
        | '.' :: _ => !digits.isEmpty && count ≤ 6 && isDotted cs && (gap || count = 6)
        | ':' :: r => !digits.isEmpty && !r.isEmpty && ipv6Rest fuel (count + 1) gap r
        | _ => false

/-- Whether a text is an address of eight parts. -/
def isIpv6 (cs : List Char) : Bool :=
  match cs with
  | ':' :: ':' :: r => ipv6Rest 10 1 true r
  | ':' :: _ => false
  | [] | [_] => false
  | _ => ipv6Rest 10 0 false cs

/-- An address in brackets. -/
def checkBracketed (cs : List Char) : Except Fault Unit :=
  if cs.getLast? = some ']' && isIpv6 (cs.tail.dropLast) then .ok () else .error .invalidIpv6

/-! ## Other hosts -/

/-- The characters no host may hold. -/
def isForbiddenInHost (c : Char) : Bool :=
  "\x00\t\n\x0d #/:<>?@[\\]^|".toList.contains c

/-- A host of a scheme without a meaning of its own. -/
def checkOpaqueHost (cs : List Char) : Except Fault Unit :=
  if cs.head? = some '[' then checkBracketed cs
  else if cs.any isForbiddenInHost then .error .invalidDomainCharacter
  else .ok ()

/-- The bytes of a text with every percent code taken for the byte it stands for. -/
def percentDecode : List UInt8 → List UInt8
  | [] => []
  | 37 :: a :: b :: r =>
    let high := Char.ofNat a.toNat
    let low := Char.ofNat b.toNat
    if isHex high && isHex low then
      (hexValue high * 16 + hexValue low).toUInt8 :: percentDecode r
    else 37 :: percentDecode (a :: b :: r)
  | a :: r => a :: percentDecode r

end SchemaMigration.Url
