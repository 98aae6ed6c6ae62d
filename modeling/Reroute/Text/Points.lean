import Reroute.Text.Basic

/-!
# Code points

A text of the program is a sequence of code points. An escape in a file, or a byte of a
word that is no UTF-8, may give half of a surrogate pair. That is no character, so such a
text is more than a string: two halves that stand side by side remain two.
-/

namespace Reroute

namespace Text

/-! ## Units

Characters above U+FFFF may be written as two units, a high one and a low one. -/

def isHighUnit (n : Nat) : Bool := 0xD800 ≤ n && n < 0xDC00

def isLowUnit (n : Nat) : Bool := 0xDC00 ≤ n && n < 0xE000

/-- A code point that is half of a pair, and so no character. -/
def isHalf (n : Nat) : Bool := isHighUnit n || isLowUnit n

/-- The code points of a sequence of units: a high unit and the low one that
follows it are one code point. -/
def joinUnits : List Nat → List Nat
  | [] => []
  | [n] => [n]
  | high :: low :: ns =>
    if isHighUnit high && isLowUnit low then
      (0x10000 + 0x400 * (high - 0xD800) + (low - 0xDC00)) :: joinUnits ns
    else high :: joinUnits (low :: ns)

/-- The two units of a code point above U+FFFF. -/
def unitsOf (n : Nat) : Nat × Nat :=
  (0xD800 + (n - 0x10000) / 0x400, 0xDC00 + (n - 0x10000) % 0x400)

/-- Every code point lies below. -/
def codeLimit : Nat := 0x110000

/-- The character that stands for what is none. -/
def replacement : Char := Char.ofNat 0xFFFD

theorem toNat_lt_codeLimit (c : Char) : c.toNat < codeLimit := by
  have := c.valid
  simp only [UInt32.isValidChar, Nat.isValidChar] at this
  simp only [codeLimit, Char.toNat]
  omega

end Text

/-- A code point: a character, or half of a surrogate pair by its distance from the
first one. -/
inductive Code where
  | char (c : Char)
  | half (n : Fin 0x800)
  deriving Repr, DecidableEq

namespace Code

instance : Coe Char Code := ⟨char⟩

/-- The number of the first half of a pair. -/
def firstHalf : Nat := 0xD800

def toNat : Code → Nat
  | char c => c.toNat
  | half n => firstHalf + n

/-- The code point with a number. One that is too large reads as U+FFFD. -/
def ofNat (n : Nat) : Code :=
  if h : firstHalf ≤ n ∧ n < firstHalf + 0x800 then half ⟨n - firstHalf, by omega⟩
  else if n < Text.codeLimit then char (Char.ofNat n)
  else char Text.replacement

/-- Whether the code point is a character with a property. -/
def is (good : Char → Bool) : Code → Bool
  | char c => good c
  | half _ => false

/-- The character, where a half reads as U+FFFD. -/
def toChar : Code → Char
  | char c => c
  | half _ => Text.replacement

theorem toNat_lt (c : Code) : c.toNat < Text.codeLimit := by
  cases c with
  | char c => exact Text.toNat_lt_codeLimit c
  | half n =>
    have := n.isLt
    simp only [toNat, firstHalf, Text.codeLimit]
    omega

end Code

/-- A text by its code points. -/
@[ext]
structure Points where
  toList : List Code
  deriving Repr, DecidableEq

namespace Points

instance : Inhabited Points := ⟨⟨[]⟩⟩

def codes (p : Points) : List Nat := p.toList.map Code.toNat

def ofCodes (codes : List Nat) : Points := ⟨codes.map Code.ofNat⟩

def ofList (s : List Char) : Points := ⟨s.map Code.char⟩

def ofString (s : String) : Points := ofList s.toList

instance : Coe String Points := ⟨ofString⟩

instance : Append Points := ⟨fun p q => ⟨p.toList ++ q.toList⟩⟩

/-- Texts are ordered by the numbers of their code points. -/
instance : LT Points := ⟨fun p q => p.codes < q.codes⟩

instance (p q : Points) : Decidable (p < q) := inferInstanceAs (Decidable (p.codes < q.codes))

def isEmpty (p : Points) : Bool := p.toList.isEmpty

/-- The texts one after another with `sep` between them. -/
def join (sep : String) (ps : List Points) : Points :=
  ⟨Text.join (ofString sep).toList (ps.map toList)⟩

/-- The text in characters, where each half of a pair reads as U+FFFD. -/
def chars (p : Points) : List Char := p.toList.map Code.toChar

def toString (p : Points) : String := String.ofList p.chars

/-- Whether the text is made of characters, without halves of pairs. -/
def isWhole (p : Points) : Bool := p.toList.all (Code.is fun _ => true)

def string? (p : Points) : Option String := if p.isWhole then some p.toString else none

def trimmed (p : Points) : Points := ⟨Text.trim (Code.is Text.isBlank) p.toList⟩

theorem bounded (p : Points) : ∀ n ∈ p.codes, n < Text.codeLimit := by
  intro n hn
  obtain ⟨c, -, rfl⟩ := List.mem_map.mp hn
  exact c.toNat_lt

@[simp] theorem toList_append (p q : Points) : (p ++ q).toList = p.toList ++ q.toList := rfl

@[simp] theorem toList_ofList (s : List Char) : (ofList s).toList = s.map Code.char := rfl

@[simp] theorem codes_append (p q : Points) : (p ++ q).codes = p.codes ++ q.codes :=
  List.map_append

@[simp] theorem codes_ofList (s : List Char) : (ofList s).codes = s.map Char.toNat := by
  rw [codes, toList_ofList, List.map_map]
  rfl

end Points

end Reroute
