/-!
# Texts

A text is the list of its characters, so that every reader of this library is a recursion on a
list.  This file holds what all of them share:

* `Text.isBlank` — white space in the sense of the Unicode property `White_Space`.
* `Text.trim`, `Text.lines`, `Text.words` — the usual cuts along white space and line feeds.
* `Text.cutAtFirst`, `Text.cutAtLast` — a text before and after an occurrence of a mark.
* `Text.after?`, `Text.holds` — a mark at the front of a text, or anywhere in it.
-/

set_option autoImplicit false

namespace PrimitiveSearch

/-- A text, as the list of its characters. -/
abbrev Text := List Char

instance : Coe String Text := ⟨String.toList⟩

instance : LawfulBEq Text := inferInstance

-- powers are those of the core library, also where others are in scope
@[default_instance 20000]
instance (priority := 1100) corePow {α : Type} [NatPow α] : Pow α Nat := instPowNat

namespace Text

/-! ## White space -/

/-- White space: the 25 characters of the Unicode property `White_Space`. -/
def isBlank (c : Char) : Bool :=
  let n := c.toNat
  (9 ≤ n && n ≤ 13) || n == 0x20 || n == 0x85 || n == 0xA0 || n == 0x1680 ||
    (0x2000 ≤ n && n ≤ 0x200A) || n == 0x2028 || n == 0x2029 || n == 0x202F || n == 0x205F ||
    n == 0x3000

/-- Whether a text consists of white space only; the empty text does. -/
def isBlankText (t : Text) : Bool := t.all isBlank

/-- A text without its leading white space. -/
def trimFront (t : Text) : Text := t.dropWhile isBlank

/-- A text without its trailing white space. -/
def trimBack (t : Text) : Text := (t.reverse.dropWhile isBlank).reverse

/-- A text without its leading and trailing white space. -/
def trim (t : Text) : Text := trimBack (trimFront t)

/-! ## Lines and words -/

/-- The lines of a text.  A line ends at a line feed, which takes a carriage return directly
before it along; a carriage return anywhere else belongs to its line.  Nothing after the last
line feed is no line. -/
def lines : Text → List Text
  | [] => []
  | '\n' :: rest => [] :: lines rest
  | '\r' :: '\n' :: rest => [] :: lines rest
  | c :: rest =>
    match lines rest with
    | [] => [[c]]
    | l :: ls => (c :: l) :: ls

/-- The maximal runs of characters that are not white space. -/
def words : Text → List Text
  | [] => []
  | c :: rest =>
    if isBlank c then words rest
    else match rest with
      | [] => [[c]]
      | d :: _ =>
        if isBlank d then [c] :: words rest
        else match words rest with
          | [] => [[c]]
          | w :: ws => (c :: w) :: ws

/-- Lines put together again, with a line feed between neighbours. -/
def unlines (ls : List Text) : Text := List.intercalate ['\n'] ls

/-- Lines as the text of a file: each ends in a line feed. -/
def ofLines (ls : List Text) : Text := ls.flatMap fun line => line ++ ['\n']

@[simp] theorem ofLines_nil : ofLines [] = [] := rfl

@[simp] theorem ofLines_cons (l : Text) (ls : List Text) :
    ofLines (l :: ls) = l ++ '\n' :: ofLines ls := by
  rw [ofLines, List.flatMap_cons, List.append_assoc]
  rfl

@[simp] theorem ofLines_append (ls ms : List Text) :
    ofLines (ls ++ ms) = ofLines ls ++ ofLines ms := List.flatMap_append

/-! ## Marks -/

/-- What follows a mark at the front of a text. -/
def after? (mark t : Text) : Option Text :=
  if mark.isPrefixOf t then some (t.drop mark.length) else none

/-- Whether a mark stands anywhere in a text. -/
def holds (mark : Text) : Text → Bool
  | [] => mark.isEmpty
  | c :: rest => mark.isPrefixOf (c :: rest) || holds mark rest

/-- A text before and after the first occurrence of a mark. -/
def cutAtFirst (mark : Text) : Text → Option (Text × Text)
  | [] => none
  | c :: rest =>
    match after? mark (c :: rest) with
    | some tail => some ([], tail)
    | none => (cutAtFirst mark rest).map fun (front, back) => (c :: front, back)

/-- A text before and after the last occurrence of a mark. -/
def cutAtLast (mark : Text) : Text → Option (Text × Text)
  | [] => none
  | c :: rest =>
    match cutAtLast mark rest with
    | some (front, back) => some (c :: front, back)
    | none => (after? mark (c :: rest)).map fun tail => ([], tail)

/-- A text without the character `c` at its end, if it ends in one. -/
def beforeLast? (c : Char) (t : Text) : Option Text :=
  if t.getLast? = some c then some t.dropLast else none

/-- The last `count` lines of a text, put together again. -/
def tail (t : Text) (count : Nat) : Text :=
  let ls := lines t
  unlines (ls.drop (ls.length - count))

end Text

end PrimitiveSearch
