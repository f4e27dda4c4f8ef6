import ImportImpact.Platform
import ImportImpact.Yaml.Block

/-!
Reading a YAML document: the everyday part of the language, without tags, anchors, directives
and keys that are no texts. A text holds at most one document.
-/

namespace ImportImpact.Yaml

/-- Control characters, the byte-order reversal mark and its neighbour are no part of a
document. -/
def isAllowed (character : Char) : Bool :=
  let code := character.toNat
  code = 0x9 || code = 0xA || code = 0xD || 0x20 ≤ code && code ≤ 0x7E || code = 0x85 ||
    0xA0 ≤ code && code ≤ 0xD7FF || 0xE000 ≤ code && code ≤ 0xFFFD || 0x10000 ≤ code

def finished : (bound : Nat) → Place → Bool
  | 0, _ => false
  | bound + 1, place =>
      let place := place.next
      place.rest.isEmpty ||
        place.column = 0 && closesDocument place.rest && finished bound (place.skip 3)

def readDocument? (bound : Nat) (place : Place) : Option (Node × Place) :=
  let first := place.next
  if first.column = 0 && opensDocument first.rest then
    let opened := first.skip 3
    let start := opened.next
    if start.ended then some (.nothing, start)
    else readNode? bound 0 (!start.sameLine opened) start
  else if first.rest.isEmpty then some (.nothing, first)
  else if first.ended then none
  else readNode? bound 0 true first

def withoutMark (document : List Char) : List Char :=
  match document with
  | '\ufeff' :: rest => rest
  | _ => document

/-- Every step into a document takes a character, and no character takes more than three. -/
def readNodes? (document : List Char) : Option Node := do
  if !document.all isAllowed then none
  else
    let bound := 3 * document.length + 3
    let (line, later) := cutLines (withoutMark document)
    let (node, after) ← readDocument? bound ⟨0, line, later⟩
    if finished bound after then pure node else none

def Trouble.unread : Trouble → Unread
  | .malformed => .malformed "no document of the kind that is read"
  | .number (.noDigits base) => .fault (.noDigits base)
  | .number (.tooManyDigits count) => .fault (.tooManyDigits count)

def read (document : String) : Except Unread Value :=
  match readNodes? document.toList with
  | some node => node.value.mapError Trouble.unread
  | none => .error Trouble.malformed.unread

end ImportImpact.Yaml
