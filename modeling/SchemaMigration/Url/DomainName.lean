import SchemaMigration.Url.Host
import SchemaMigration.Url.Label
import SchemaMigration.Url.Punycode

/-!
# Domain names of URLs

The host of a URL whose scheme has a meaning is a domain name or an address of four
parts. Its percent codes are taken for the bytes they stand for, and the bytes are
read as UTF-8. The plain form of the text is cut at its dots into labels, some of which
may be encoded in ASCII.
-/

namespace SchemaMigration.Url

open Text

/-- The text of bytes in UTF-8. -/
def decodeUtf8 (bytes : List UInt8) : Option (List Char) :=
  (String.fromUTF8? (ByteArray.mk bytes.toArray)).map String.toList

/-- The most characters of an encoded label after its sign. -/
def longestCode : Nat := 2000

/-- The label that a part of a name is or encodes. The sign `xn--` announces an encoded
label, which is in plain form and not in ASCII. -/
def readLabel? : List Char → Option (List Char)
  | 'x' :: 'n' :: '-' :: '-' :: code =>
    if longestCode < code.length then none
    else
      (decodeLabel? code).filter fun label =>
        label.any (0x80 ≤ ·.toNat) && isPlain label
  | label => some label

/-- A domain name in plain form, its encoded labels as they are. -/
def domainName (cs : List Char) : Except Fault (List Char) :=
  let text := decodeUtf8 (percentDecode (String.ofList cs).toUTF8.toList)
  match text.bind plainText? with
  | none => .error .invalidDomainName
  | some name =>
    match (name.splitOn '.').mapM readLabel? with
    | none => .error .invalidDomainName
    | some labels =>
      if labels.all isLabel && directionsAgree labels then .ok name
      else .error .invalidDomainName

/-- The host of a scheme with a meaning. -/
def checkSpecialHost (cs : List Char) : Except Fault Unit :=
  if cs.head? = some '[' then checkBracketed cs
  else
    match domainName cs with
    | .error fault => .error fault
    | .ok [] => .error .emptyHost
    | .ok name => if endsInNumber name && !isIpv4 name then .error .invalidIpv4 else .ok ()

end SchemaMigration.Url
