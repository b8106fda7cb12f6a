import WampClient.Idna.Label
import WampClient.Idna.Punycode
import WampClient.Text.Split

/-! # Domain names in ASCII

`toAscii?` maps a domain name, cuts it into labels, checks them and writes labels beyond ASCII in
Punycode. Labels that are in Punycode already are read and checked, and stay as they are.
-/

namespace WampClient.Idna

def isAscii (c : Char) : Bool :=
  c.toNat < 0x80

def isDomainChar (c : Char) : Bool :=
  !isAscii c || 0x20 < c.toNat && c.toNat ≠ 0x7F && !"%#/:<>?@[\\]^|".toList.contains c

def acePrefix : List Char := ['x', 'n', '-', '-']

/-- The most characters that a label beyond ASCII may have. Labels in ASCII may be of any length. -/
def longestLabel : Nat := 1000

def longestPunycode : Nat := 2000

/-- The characters that a label in Punycode stands for, if it is not too long to be read. The label
    is given without what marks it as one. -/
def readLabel? (digits : List Char) : Option (List Char) :=
  if digits.length ≤ longestPunycode then ofPunycode? digits else none

def unicodeLabel? (label : List Char) : Option (List Char) :=
  if label.take 4 = acePrefix then
    match readLabel? (label.drop 4) with
    | none => none
    | some text =>
      if label.all isAscii && !text.all isAscii && text.length ≤ longestLabel && isStable text &&
          isWellFormed text then
        some text
      else none
  else if label.all isAscii || label.length ≤ longestLabel && isWellFormed label then some label
  else none

def asciiLabel (label : List Char) : List Char :=
  if label.all isAscii then label else acePrefix ++ punycode label

/-- The ASCII form of a domain name, if it is sound. The name is mapped and normalized as a whole
    and checked label by label; only then are labels beyond ASCII written in Punycode. -/
def toAscii? (domain : List Char) : Option (List Char) :=
  match mapAll domain with
  | none => none
  | some mapped =>
    let labels := Text.splitBy (· = '.') (normalize mapped)
    match labels.mapM unicodeLabel? with
    | none => none
    | some texts =>
      if labels.all (·.all isDomainChar) &&
          (!texts.any (·.any isRightToLeft) || texts.all directionsFit) then
        some (Text.joinWith '.' (labels.map asciiLabel))
      else none

end WampClient.Idna
