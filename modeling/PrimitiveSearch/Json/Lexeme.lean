import PrimitiveSearch.Json.Fault

/-!
# White space, literals and strings of a document

* `Json.skipSpace` — the four characters that may stand between the parts of a document.
* `Json.literal` — the rest of a word that has to be spelt in full.
* `Json.stringBody` — a string after its opening quote, escapes resolved.
* `Json.skipString` — the same without its value; half a surrogate pair is no fault then.
-/

set_option autoImplicit false

namespace PrimitiveSearch.Json

/-- The white space of documents. -/
def isSpace (c : Char) : Bool := c == ' ' || c == '\n' || c == '\t' || c == '\r'

/-- A text without the white space at its front. -/
def skipSpace (t : Text) : Text := t.dropWhile isSpace

/-- What follows a word. -/
def literal : (word : Text) → Text → Except Fault Text
  | [], t => .ok t
  | _ :: _, [] => failAt .endInValue []
  | w :: ws, c :: rest =>
    if c = w then literal ws rest else failPast .expectedLiteral (c :: rest)

/-! ## Escapes -/

/-- The value of a hexadecimal digit. -/
def hexDigit? (c : Char) : Option Nat :=
  let n := c.toNat
  if 48 ≤ n && n ≤ 57 then some (n - 48)
  else if 97 ≤ n && n ≤ 102 then some (n - 87)
  else if 65 ≤ n && n ≤ 70 then some (n - 55)
  else none

/-- Four hexadecimal digits.  They are looked at together: with fewer than four bytes left the
string is unfinished, otherwise the place of a fault is behind the fourth byte. -/
def hexFour (t : Text) : Except Fault (Nat × Text) :=
  if Text.byteLength (t.take 4) < 4 then failAt .endInString []
  else match (t.take 4).mapM hexDigit? with
    | some digits => .ok (digits.foldl (fun n d => n * 16 + d) 0, t.drop 4)
    | none => .error ⟨.invalidEscape, Text.byteLength t - 4⟩

/-- The character that an escape by one letter stands for. -/
def shortEscape? (c : Char) : Option Char :=
  if c = '"' then some '"'
  else if c = '\\' then some '\\'
  else if c = '/' then some '/'
  else if c = 'b' then some '\x08'
  else if c = 'f' then some '\x0c'
  else if c = 'n' then some '\n'
  else if c = 'r' then some '\r'
  else if c = 't' then some '\t'
  else none

/-- The first half of a surrogate pair. -/
def isHighHalf (n : Nat) : Bool := 0xD800 ≤ n && n ≤ 0xDBFF

/-- The second half of a surrogate pair. -/
def isLowHalf (n : Nat) : Bool := 0xDC00 ≤ n && n ≤ 0xDFFF

/-- The character of a surrogate pair. -/
def pairedChar (high low : Nat) : Char :=
  Char.ofNat (0x10000 + (high - 0xD800) * 0x400 + (low - 0xDC00))

/-- The second half of a surrogate pair, and the character that it completes. -/
def lowHalf (high : Nat) : Text → Except Fault (Char × Text)
  | [] => failAt .endInString []
  | '\\' :: [] => failAt .endInString []
  | '\\' :: 'u' :: rest =>
    match hexFour rest with
    | .error fault => .error fault
    | .ok (low, after) =>
      if isLowHalf low then .ok (pairedChar high low, after) else failAt .loneSurrogate after
  | '\\' :: rest => failPast .endOfHexEscape rest
  | t => failPast .endOfHexEscape t

/-- The character that an escape stands for, after its backslash. -/
def escape : Text → Except Fault (Char × Text)
  | [] => failAt .endInString []
  | 'u' :: rest =>
    match hexFour rest with
    | .error fault => .error fault
    | .ok (n, after) =>
      if isLowHalf n then failAt .loneSurrogate after
      else if isHighHalf n then lowHalf n after
      else .ok (Char.ofNat n, after)
  | c :: rest =>
    match shortEscape? c with
    | some d => .ok (d, rest)
    | none => failPast .invalidEscape (c :: rest)

theorem length_hexFour_le {t after : Text} {n : Nat} (h : hexFour t = .ok (n, after)) :
    after.length ≤ t.length := by
  unfold hexFour at h
  split at h
  · cases h
  · split at h
    · cases h; simp
    · cases h

theorem length_lowHalf_le {high : Nat} {t after : Text} {c : Char}
    (h : lowHalf high t = .ok (c, after)) : after.length ≤ t.length := by
  unfold lowHalf at h
  split at h
  · cases h
  · cases h
  · rename_i rest
    split at h
    · cases h
    · rename_i low after' hx
      split at h
      · obtain rfl : after' = after := congrArg Prod.snd (Except.ok.inj h)
        have := length_hexFour_le hx
        simp only [List.length_cons]
        omega
      · cases h
  · cases h
  · cases h

theorem length_escape_lt {t after : Text} {c : Char} (h : escape t = .ok (c, after)) :
    after.length < t.length := by
  unfold escape at h
  split at h
  · cases h
  · rename_i rest
    split at h
    · cases h
    · rename_i n after' hx
      have hx' := length_hexFour_le hx
      split at h
      · cases h
      · split at h
        · have := length_lowHalf_le h
          simp only [List.length_cons]
          omega
        · obtain rfl : after' = after := congrArg Prod.snd (Except.ok.inj h)
          simp only [List.length_cons]
          omega
  · split at h
    · cases h; simp
    · cases h

/-! ## Strings -/

/-- One of the characters that must be escaped for being invisible. -/
def isControl (c : Char) : Bool := c.toNat < 32

/-- A string after its opening quote, and what follows its closing quote. -/
def stringBody : Reader Text
  | [] => failAt .endInString []
  | c :: rest =>
    if c = '"' then .ok ([], rest)
    else if c = '\\' then
      match _h : escape rest with
      | .error fault => .error fault
      | .ok (d, after) =>
        match stringBody after with
        | .error fault => .error fault
        | .ok (t, behind) => .ok (d :: t, behind)
    else if isControl c then failPast .controlCharacter (c :: rest)
    else
      match stringBody rest with
      | .error fault => .error fault
      | .ok (t, behind) => .ok (c :: t, behind)
  termination_by t => t.length
  decreasing_by
    · have := length_escape_lt _h
      simp only [List.length_cons]
      omega
    · simp only [List.length_cons]
      omega

/-- What follows an escape whose meaning does not matter, after its backslash. -/
def skipEscape : Text → Except Fault Text
  | [] => failAt .endInString []
  | 'u' :: rest => (hexFour rest).map Prod.snd
  | c :: rest =>
    if (shortEscape? c).isSome then .ok rest else failPast .invalidEscape (c :: rest)

theorem length_skipEscape_lt {t after : Text} (h : skipEscape t = .ok after) :
    after.length < t.length := by
  unfold skipEscape at h
  split at h
  · cases h
  · rename_i rest
    cases hx : hexFour rest with
    | error fault => rw [hx] at h; cases h
    | ok p =>
      rw [hx] at h
      cases h
      have := @length_hexFour_le rest p.2 p.1 hx
      simp only [List.length_cons]
      omega
  · split at h
    · cases h; simp
    · cases h

/-- What follows a string whose value does not matter, after its opening quote. -/
def skipString : Text → Except Fault Text
  | [] => failAt .endInString []
  | c :: rest =>
    if c = '"' then .ok rest
    else if c = '\\' then
      match _h : skipEscape rest with
      | .error fault => .error fault
      | .ok after => skipString after
    else if isControl c then failAt .controlCharacter (c :: rest)
    else skipString rest
  termination_by t => t.length
  decreasing_by
    · have := length_skipEscape_lt _h
      simp only [List.length_cons]
      omega
    · simp only [List.length_cons]
      omega

end PrimitiveSearch.Json
