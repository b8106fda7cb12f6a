import WampClient.Json.Reader

/-! # Skipping JSON values

A value that nobody asked for is only checked for its form: numbers may have any size, strings may
hold any bytes and any surrogates, and nesting has no limit.
-/

namespace WampClient.Json

open Bytes (Tail Rest)

/-- Skips a string whose opening quotation mark was read, within the unread part `s` of `whole`. -/
def skipStringFrom (whole : Bytes) : (s : Tail whole) → Except Stop (Rest whole)
  | ⟨[], _⟩ => .error (stopAtEnd .endOfString)
  | ⟨b :: s, h⟩ =>
    if b = 0x22 then .ok ⟨s, h⟩
    else if b = 0x5C then
      match s, h with
      | [], _ => .error (stopAtEnd .endOfString)
      | c :: t, h =>
        if (shortEscape? c).isSome then skipStringFrom whole ((Tail.all t).cons.cons.within h)
        else if c = 0x75 then
          match scanHex t with
          | .error stop => .error stop
          | .ok (_, u) => skipStringFrom whole (u.toTail.cons.cons.within h)
        else .error (stopBefore .invalidEscape t)
    else if b < 0x20 then .error (stopBefore .controlCharacter (b :: s))
    else skipStringFrom whole ((Tail.all s).cons.within h)
termination_by s => s.val.length
decreasing_by
  · exact Nat.lt_succ_of_lt (Nat.lt_succ_self _)
  · exact Nat.lt_succ_of_lt (Nat.lt_succ_of_lt u.property)
  · exact Nat.lt_succ_self _

def skipString (s : Bytes) : Except Stop (Rest s) :=
  skipStringFrom s (.all s)

/-- Skips a number whose minus sign, if it has one, was read. A number that is cut short is as bad
    as one with a wrong character. -/
def skipNumber (s : Bytes) : Except Stop (Rest s) :=
  match scanUnsigned false s with
  | .ok (_, r) => .ok r
  | .error ⟨.endOfValue, left⟩ => .error ⟨.invalidNumber, left⟩
  | .error stop => .error stop

def skipLeaf (b : UInt8) (s : Bytes) : Except Stop (Tail s) :=
  if b = 0x6E then scanWord [0x75, 0x6C, 0x6C] s
  else if b = 0x74 then scanWord [0x72, 0x75, 0x65] s
  else if b = 0x66 then scanWord [0x61, 0x6C, 0x73, 0x65] s
  else if b = 0x22 then (skipString s).map Rest.toTail
  else if b = 0x2D then (skipNumber s).map Rest.toTail
  else if (Decimal.digit? b).isSome then
    (skipNumber (b :: s)).map Rest.uncons
  else .error (stopBefore .expectedValue s)

/-- Skips a key, from before its opening quotation mark to behind its colon. -/
def skipKey (s : Bytes) : Except Stop (Rest s) :=
  match skipBlanks s with
  | ⟨[], _⟩ => .error (stopAtEnd .endOfObject)
  | ⟨b :: t, ht⟩ =>
    if b = 0x22 then
      match skipString t with
      | .error stop => .error stop
      | .ok ⟨u, hu⟩ =>
        match skipColon u with
        | .error stop => .error stop
        | .ok r => .ok ((r.behind hu).behind ht)
    else .error (stopAt .keyNotString (b :: t))

mutual

def skipValue (s : Bytes) : Except Stop (Rest s) :=
  match skipBlanks s with
  | ⟨[], _⟩ => .error (stopAtEnd .endOfValue)
  | ⟨b :: t, ht⟩ =>
    if b = 0x5B then (skipItems true t).map (·.behind ht)
    else if b = 0x7B then (skipFields true t).map (·.behind ht)
    else (skipLeaf b t).map (·.behind ht)
termination_by (s.length, 0)
decreasing_by all_goals exact Prod.Lex.left _ _ ht

def skipItems (isFirst : Bool) (s : Bytes) : Except Stop (Rest s) :=
  match skipBlanks s with
  | ⟨[], _⟩ => .error (stopAtEnd .endOfList)
  | ⟨b :: t, ht⟩ =>
    if b = 0x5D then .ok ⟨t, ht⟩
    else if isFirst then
      match skipValue s with
      | .error stop => .error stop
      | .ok ⟨u, hu⟩ => (skipItems false u).map (·.behind hu)
    else if b = 0x2C then
      match skipValue t with
      | .error stop => .error stop
      | .ok ⟨u, hu⟩ => (skipItems false u).map fun r => (r.behind hu).behind ht
    else .error (stopAt .expectedListEnd (b :: t))
termination_by (s.length, 1)
decreasing_by
  · exact Prod.Lex.right _ Nat.one_pos
  · exact Prod.Lex.left _ _ hu
  · exact Prod.Lex.left _ _ ht
  · exact Prod.Lex.left _ _ (Nat.lt_trans hu ht)

def skipFields (isFirst : Bool) (s : Bytes) : Except Stop (Rest s) :=
  match skipBlanks s with
  | ⟨[], _⟩ => .error (stopAtEnd .endOfObject)
  | ⟨b :: t, ht⟩ =>
    if b = 0x7D then .ok ⟨t, ht⟩
    else if isFirst then
      match skipKey s with
      | .error stop => .error stop
      | .ok ⟨u, hu⟩ =>
        match skipValue u with
        | .error stop => .error stop
        | .ok ⟨w, hw⟩ =>
          (skipFields false w).map fun r => (r.behind hw).behind hu
    else if b = 0x2C then
      match skipKey t with
      | .error stop => .error stop
      | .ok ⟨u, hu⟩ =>
        match skipValue u with
        | .error stop => .error stop
        | .ok ⟨w, hw⟩ =>
          (skipFields false w).map fun r => ((r.behind hw).behind hu).behind ht
    else .error (stopAt .expectedObjectEnd (b :: t))
termination_by (s.length, 1)
decreasing_by
  · exact Prod.Lex.left _ _ hu
  · exact Prod.Lex.left _ _ (Nat.lt_trans hw hu)
  · exact Prod.Lex.left _ _ (Nat.lt_trans hu ht)
  · exact Prod.Lex.left _ _ (Nat.lt_trans hw (Nat.lt_trans hu ht))

end

end WampClient.Json
