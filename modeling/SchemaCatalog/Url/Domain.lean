import SchemaCatalog.Text.Composed
import SchemaCatalog.Url.Domain.Direction
import SchemaCatalog.Url.Domain.Joining
import SchemaCatalog.Url.Domain.Mapping
import SchemaCatalog.Url.Domain.Punycode

/-!
# Domain names in hosts

A domain name consists of labels with points between them. A label with other characters than those
of ASCII is written in ASCII after the mark `xn--`.

* `Domain.toAscii?`: the ASCII form of a domain name.
-/

namespace SchemaCatalog.Url.Domain

/-- Whether an ASCII character may not stand in a domain name. -/
def isForbidden (c : Char) : Bool :=
  c.toNat ≤ 0x20 || c.toNat = 0x7F ||
    ['%', '#', '/', ':', '<', '>', '?', '@', '[', '\\', ']', '^', '|'].contains c

def isAscii (c : Char) : Bool := c.toNat < 128

/-- The mark in front of a label that is written in ASCII letters. -/
def mark : List Char := ['x', 'n', '-', '-']

def labels (name : List Char) : List (List Char) :=
  name.foldr (fun c done =>
    if c = '.' then [] :: done
    else
      match done with
      | label :: rest => (c :: label) :: rest
      | [] => [[c]]) [[]]

def join (labels : List (List Char)) : List Char := ['.'].intercalate labels

/-- Replaces the characters of a name and composes it; fails for characters that are not allowed. -/
def normal? (name : List Char) : Option (List Char) := do
  let replaced ← name.mapM replace?
  let s := Text.composed replaced.flatten
  if s.any isForbidden then none else return s

/-- Whether a label is one that other characters than those of ASCII make up. -/
def isWellFormed (label : List Char) : Bool :=
  !((label.head?.map isMark).getD false) && joinersFit label && decide (label.length ≤ 1000)

/-- The label for which a label with the mark stands. It has to be in the form that replacing and
composing leave as it is. -/
def decodeLabel? (s : List Char) : Option (List Char) := do
  if s.getLast? = some '-' then none
  let label ← Punycode.decode (s.drop mark.length)
  if label.all isKept && Text.composed label == label &&
      !label.any (fun c => isForbidden c || c = '.') then
    return label
  else none

/-- A label as it reads and as it is written. -/
def readLabel? (label : List Char) : Option (List Char × List Char) := do
  if mark.isPrefixOf label then
    let read ← decodeLabel? label
    if isWellFormed read then return (read, label) else none
  else if label.all isAscii then return (label, label)
  else if isWellFormed label then return (label, mark ++ Punycode.encode label)
  else none

/-- The ASCII form of a domain name that is not plain ASCII. -/
def toAsciiFully? (name : List Char) : Option (List Char) := do
  let pairs ← (labels (← normal? name)).mapM readLabel?
  let read := pairs.map Prod.fst
  if read.any (fun l => l.any turns) && !read.all isOneWay then none
  else return join (pairs.map Prod.snd)

/-- Whether small letters are all that a domain name needs. -/
def isPlain (name : List Char) : Bool :=
  name.all isAscii && !(labels (name.map Char.toLower)).any mark.isPrefixOf

def toAscii? (name : List Char) : Option (List Char) :=
  if isPlain name then if name.any isForbidden then none else some (name.map Char.toLower)
  else toAsciiFully? name

end SchemaCatalog.Url.Domain
