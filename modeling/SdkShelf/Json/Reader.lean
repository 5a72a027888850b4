import SdkShelf.Json.Literal
import SdkShelf.Json.Numeral

/-!
From a text to its tree. The descent is bounded by the length of the text: two steps down take at
least one character.
-/

namespace SdkShelf
namespace Json
namespace Reader

def word (letters : List Char) (c : Cursor) : Except Fault Cursor :=
  match letters with
  | [] => .ok c
  | x :: more =>
    match c.rest with
    | [] => .error (.both .endInValue c.place)
    | y :: _ =>
      if x = y then word more c.pass else .error (.both .identExpected c.mark.peeked)

def scalar (c : Cursor) : Except Fault (Scalar × Cursor) :=
  match c.rest with
  | [] => .error (.both .endInValue c.place)
  | 'n' :: _ => do
    let c ← word ['u', 'l', 'l'] c.pass
    .ok (.null, c)
  | 't' :: _ => do
    let c ← word ['r', 'u', 'e'] c.pass
    .ok (.bool true, c)
  | 'f' :: _ => do
    let c ← word ['a', 'l', 's', 'e'] c.pass
    .ok (.bool false, c)
  | '"' :: rest => do
    let (s, c) ← Literal.read .plain [] none c.pass.place rest
    .ok (.string s, c)
  | '-' :: _ => do
    let (n, c) ← Numeral.read true c.pass
    .ok (.number n, c)
  | x :: _ =>
    if x.isDigit then do
      let (n, c) ← Numeral.read false c
      .ok (.number n, c)
    else .error (.both .valueExpected c.mark.peeked)

def leaf (c : Cursor) : Tree × Cursor :=
  match scalar c with
  | .ok (s, c') => (.scalar c.mark s c'.place, c')
  | .error f => (.broken c.mark f, c)

def label (c : Cursor) : Except Fault (Label × Except Fault Unit × Cursor) := do
  let (name, behind) ← Literal.read .plain [] none c.pass.place c.pass.rest
  let gap := behind.skipSpace
  let l : Label := ⟨name, behind.place, gap.mark, gap.mark⟩
  match gap.rest with
  | ':' :: _ => .ok (l, .ok (), gap.pass.skipSpace)
  | [] => .ok (l, .error (.both .endInObject gap.place), gap)
  | _ => .ok (l, .error (.both .colonExpected gap.mark.peeked), gap)

def keyGap (first : Bool) (c : Cursor) : KeyGap :=
  match c.rest with
  | [] => .ended first
  | x :: _ => if x = '\x7d' ∧ !first then .closed else .other

def isWhole : Tree → Bool
  | .broken .. => false
  | .scalar .. => true
  | .array _ _ (.closed _) | .object _ _ (.closed _) => true
  | _ => false

mutual

def value : Nat → Cursor → Tree × Cursor
  | 0, c => (.broken c.mark (.both .endInValue c.place), c)
  | fuel + 1, c =>
    match c.rest with
    | '[' :: _ =>
      let inner := c.pass.skipSpace
      match inner.rest with
      | [] => (.array c.mark [] (.ended inner.mark), inner)
      | ']' :: _ => (.array c.mark [] (.closed inner.mark), inner.pass)
      | _ =>
        let (items, ending, c') := items fuel inner
        (.array c.mark items ending, c')
    | '\x7b' :: _ =>
      let inner := c.pass.skipSpace
      match inner.rest with
      | '\x7d' :: _ => (.object c.mark [] (.closed inner.mark), inner.pass)
      | '"' :: _ =>
        let (members, ending, c') := members fuel inner
        (.object c.mark members ending, c')
      | _ => (.object c.mark [] (.noKey (keyGap true inner) inner.mark), inner)
    | _ => leaf c

/-- Reads a list's items from a cursor at one of them. -/
def items : Nat → Cursor → List Tree × Ending × Cursor
  | 0, c => ([], .ended c.mark, c)
  | fuel + 1, c =>
    let (item, behind) := value fuel c
    if !isWhole item then ([item], .unread, behind)
    else
      let gap := behind.skipSpace
      match gap.rest with
      | [] => ([item], .ended gap.mark, gap)
      | ']' :: _ => ([item], .closed gap.mark, gap.pass)
      | ',' :: _ =>
        let next := gap.pass.skipSpace
        match next.rest with
        | ']' :: _ => ([item], .trailingComma next.mark, next)
        | _ =>
          let (rest, ending, c') := items fuel next
          (item :: rest, ending, c')
      | _ => ([item], .noComma gap.mark, gap)

/-- Reads an object's members from a cursor at the quote of a key. -/
def members : Nat → Cursor → List (Label × Tree) × Ending × Cursor
  | 0, c => ([], .ended c.mark, c)
  | fuel + 1, c =>
    match label c with
    | .error f => ([], .brokenKey f, c)
    | .ok (l, .error f, c) => ([(l, .broken c.mark f)], .unread, c)
    | .ok (l, .ok (), c) =>
      let (item, behind) := value fuel c
      if !isWhole item then ([(l, item)], .unread, behind)
      else
        let gap := behind.skipSpace
        let l := { l with after := gap.mark }
        match gap.rest with
        | [] => ([(l, item)], .ended gap.mark, gap)
        | '\x7d' :: _ => ([(l, item)], .closed gap.mark, gap.pass)
        | ',' :: _ =>
          let next := gap.pass.skipSpace
          match next.rest with
          | '"' :: _ =>
            let (rest, ending, c') := members fuel next
            ((l, item) :: rest, ending, c')
          | _ => ([(l, item)], .noKey (keyGap false next) next.mark, next)
        | _ => ([(l, item)], .noComma gap.mark, gap)

end

end Reader

namespace Tree

/-- The tree of a text, and the mark behind it and the blanks that follow. -/
def ofText (text : String) : Tree × Mark :=
  let cs := text.toList
  let (t, c) := Reader.value (2 * cs.length + 2) (Cursor.start cs).skipSpace
  (t, c.skipSpace.mark)

end Tree

end Json
end SdkShelf
