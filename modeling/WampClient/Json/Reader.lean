import WampClient.Json.Scan

/-! # Reading JSON values

Lists and objects are walked item by item: a step looks at the punctuation before the next item and
leaves the unread text at that item. `scanValue` builds values; `parse` reads a whole text.
-/

namespace WampClient.Json

open Bytes (Tail Rest)

/-- Goes to the next item of a list, or gives `none` at its closing bracket. -/
def nextItem (isFirst : Bool) (s : Bytes) : Except Stop (Option (Tail s)) :=
  match skipBlanks s with
  | ⟨[], _⟩ => .error (stopAtEnd .endOfList)
  | ⟨b :: t, h⟩ =>
    if b = 0x5D then .ok none
    else if isFirst then .ok (some ⟨b :: t, h⟩)
    else if b = 0x2C then
      match skipBlanks t with
      | ⟨[], _⟩ => .error (stopAtEnd .endOfValue)
      | ⟨c :: u, hu⟩ =>
        if c = 0x5D then .error (stopAt .trailingComma (c :: u))
        else .ok (some ((Tail.cons ⟨c :: u, hu⟩).within h))
    else .error (stopAt .expectedListEnd (b :: t))

/-- Goes behind the closing bracket of a list of which no more items are wanted. -/
def endList (s : Bytes) : Except Stop (Rest s) :=
  match skipBlanks s with
  | ⟨[], _⟩ => .error (stopAtEnd .endOfList)
  | ⟨b :: t, h⟩ =>
    if b = 0x5D then .ok ⟨t, h⟩
    else if b = 0x2C then
      match skipBlanks t with
      | ⟨c :: u, _⟩ =>
        .error (stopAt (if c = 0x5D then .trailingComma else .trailingCharacters) (c :: u))
      | ⟨[], _⟩ => .error (stopAtEnd .trailingCharacters)
    else .error (stopAt .trailingCharacters (b :: t))

/-- Goes behind the quotation mark that opens the next key of an object, or gives `none` at its
    closing brace. -/
def nextKey (isFirst : Bool) (s : Bytes) : Except Stop (Option (Rest s)) :=
  match skipBlanks s with
  | ⟨[], _⟩ => .error (stopAtEnd .endOfObject)
  | ⟨b :: t, h⟩ =>
    if b = 0x7D then .ok none
    else if isFirst then
      if b = 0x22 then .ok (some ⟨t, h⟩) else .error (stopAt .keyNotString (b :: t))
    else if b = 0x2C then
      match skipBlanks t with
      | ⟨[], _⟩ => .error (stopAtEnd .endOfValue)
      | ⟨c :: u, hu⟩ =>
        if c = 0x22 then .ok (some ((Rest.cons ⟨u, hu⟩).within h))
        else if c = 0x7D then .error (stopAt .trailingComma (c :: u))
        else .error (stopAt .keyNotString (c :: u))
    else .error (stopAt .expectedObjectEnd (b :: t))

def endObject (s : Bytes) : Except Stop (Rest s) :=
  match skipBlanks s with
  | ⟨[], _⟩ => .error (stopAtEnd .endOfObject)
  | ⟨b :: t, h⟩ =>
    if b = 0x7D then .ok ⟨t, h⟩
    else if b = 0x2C then .error (stopAt .trailingComma (b :: t))
    else .error (stopAt .trailingCharacters (b :: t))

def skipColon (s : Bytes) : Except Stop (Rest s) :=
  match skipBlanks s with
  | ⟨[], _⟩ => .error (stopAtEnd .endOfObject)
  | ⟨b :: t, h⟩ =>
    if b = 0x3A then .ok ⟨t, h⟩ else .error (stopAt .expectedColon (b :: t))

def scanKey : Scanner String := fun s =>
  match scanString s with
  | .error stop => .error stop
  | .ok (key, ⟨t, ht⟩) =>
    match skipColon t with
    | .error stop => .error stop
    | .ok r => .ok (key, r.behind ht)

/-- Reads the items of a list whose opening bracket was read, and its closing bracket. -/
def scanItems (item : Scanner Value) (done : List Value) (s : Bytes) :
    Except Stop (List Value × Rest s) :=
  match nextItem done.isEmpty s with
  | .error stop => .error stop
  | .ok none =>
    match endList s with
    | .error stop => .error stop
    | .ok r => .ok (done.reverse, r)
  | .ok (some ⟨t, ht⟩) =>
    match item t with
    | .error stop => .error stop
    | .ok (v, ⟨u, hu⟩) =>
      match scanItems item (v :: done) u with
      | .error stop => .error stop
      | .ok (items, r) => .ok (items, (r.behind hu).within ht)
termination_by s.length
decreasing_by omega

def scanFields (item : Scanner Value) (done : List (String × Value)) (s : Bytes) :
    Except Stop (List (String × Value) × Rest s) :=
  match nextKey done.isEmpty s with
  | .error stop => .error stop
  | .ok none =>
    match endObject s with
    | .error stop => .error stop
    | .ok r => .ok (done.reverse, r)
  | .ok (some ⟨t, ht⟩) =>
    match scanKey t with
    | .error stop => .error stop
    | .ok (key, ⟨u, hu⟩) =>
      match item u with
      | .error stop => .error stop
      | .ok (v, ⟨w, hw⟩) =>
        match scanFields item ((key, v) :: done) w with
        | .error stop => .error stop
        | .ok (fields, r) =>
          .ok (fields, ((r.behind hw).behind hu).behind ht)
termination_by s.length
decreasing_by omega

def Value.ofNumber : Whole ⊕ Double → Value
  | .inl n => .whole n
  | .inr x => .double x

def scanLeaf (b : UInt8) (s : Bytes) : Except Stop (Value × Tail s) :=
  if b = 0x6E then (scanWord [0x75, 0x6C, 0x6C] s).map (.null, ·)
  else if b = 0x74 then (scanWord [0x72, 0x75, 0x65] s).map (.bool true, ·)
  else if b = 0x66 then (scanWord [0x61, 0x6C, 0x73, 0x65] s).map (.bool false, ·)
  else if b = 0x22 then
    (scanString s).map fun (text, r) => (.string text, r.toTail)
  else if b = 0x2D then
    (scanNumber true s).map fun (n, r) => (.ofNumber n, r.toTail)
  else if (Decimal.digit? b).isSome then
    (scanNumber false (b :: s)).map fun (n, r) => (.ofNumber n, r.uncons)
  else .error (stopBefore .expectedValue s)

/-- Reads a value in which lists and objects are nested at most `depth` deep. -/
def scanValue (depth : Nat) : Scanner Value := fun s =>
  match skipBlanks s with
  | ⟨[], _⟩ => .error (stopAtEnd .endOfValue)
  | ⟨b :: t, ht⟩ =>
    if b = 0x5B then
      match depth with
      | 0 => .error (stopAt .tooDeep (b :: t))
      | depth + 1 =>
        (scanItems (scanValue depth) [] t).map fun (items, r) =>
          (.list items, r.behind ht)
    else if b = 0x7B then
      match depth with
      | 0 => .error (stopAt .tooDeep (b :: t))
      | depth + 1 =>
        (scanFields (scanValue depth) [] t).map fun (fields, r) =>
          (.ofFields fields, r.behind ht)
    else (scanLeaf b t).map fun (v, r) => (v, r.behind ht)

def scanEnd (s : Bytes) : Except Stop Unit :=
  match skipBlanks s with
  | ⟨[], _⟩ => .ok ()
  | ⟨t, _⟩ => .error (stopAt .trailingCharacters t)

def readAll {α : Type} (scan : Scanner α) (text : Bytes) : Except Fault α :=
  match scan text with
  | .error stop => .error (stop.fault text)
  | .ok (a, ⟨r, _⟩) =>
    match scanEnd r with
    | .error stop => .error (stop.fault text)
    | .ok () => .ok a

def maxDepth : Nat := 127

def parse (text : Bytes) : Except Fault Value :=
  readAll (scanValue maxDepth) text

/-! ## Values of a wanted kind -/

/-- The fault of a value at the front of `s` that is not of the wanted kind. A list or an object is
    refused before it is read, any other value after it. -/
def unexpected (expected : String) (b : UInt8) (s : Bytes) : Stop :=
  if b = 0x5B then stopBefore (.wrongType .list expected) (b :: s)
  else if b = 0x7B then stopBefore (.wrongType .object expected) (b :: s)
  else
    match scanLeaf b s with
    | .error stop => stop
    | .ok (v, ⟨r, _⟩) =>
      let found := match v with
        | .null => .null
        | .bool b => .bool b
        | .whole n => .whole n
        | .double x => .double x
        | .string t => .string t
        | .list _ => .list
        | .object _ => .object
      stopBefore (.wrongType found expected) r

/-- Reads a list of values, the list itself being the outermost of `maxDepth` levels. -/
def scanList : Scanner (List Value) := fun s =>
  match skipBlanks s with
  | ⟨[], _⟩ => .error (stopAtEnd .endOfValue)
  | ⟨b :: t, ht⟩ =>
    if b = 0x5B then
      (scanItems (scanValue (maxDepth - 1)) [] t).map fun (items, r) =>
        (items, r.behind ht)
    else .error (unexpected "a sequence" b t)

def parseList (text : Bytes) : Except Fault (List Value) :=
  readAll scanList text

end WampClient.Json
