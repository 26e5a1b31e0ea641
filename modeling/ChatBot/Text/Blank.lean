import ChatBot.Text.Basic

/-!
Blank characters and line boundaries, and the cutting they govern: trimming, words and lines. Every line boundary is
blank, and so are the blanks within a line.
-/
set_option autoImplicit false

namespace ChatBot.Text

/-- The code points that separate words. -/
def blankCodes : List Nat :=
  [0x09, 0x0A, 0x0B, 0x0C, 0x0D, 0x1C, 0x1D, 0x1E, 0x1F, 0x20, 0x85, 0xA0, 0x1680, 0x2000, 0x2001, 0x2002, 0x2003,
   0x2004, 0x2005, 0x2006, 0x2007, 0x2008, 0x2009, 0x200A, 0x2028, 0x2029, 0x202F, 0x205F, 0x3000]

/-- The code points that end a line. -/
def breakCodes : List Nat := [0x0A, 0x0B, 0x0C, 0x0D, 0x1C, 0x1D, 0x1E, 0x85, 0x2028, 0x2029]

def isBlank (c : Char) : Bool := blankCodes.contains c.toNat

def isBreak (c : Char) : Bool := breakCodes.contains c.toNat

theorem breakCodes_subset_blankCodes : ∀ n ∈ breakCodes, n ∈ blankCodes := by decide

theorem isBlank_of_isBreak {c : Char} (h : isBreak c = true) : isBlank c = true := by
  simp only [isBreak, isBlank, List.contains_iff_mem] at h ⊢
  exact breakCodes_subset_blankCodes _ h

/-! ## Trimming -/

def trimLeft (t : Text) : Text := t.dropWhile isBlank

def trimRight (t : Text) : Text := dropWhileEnd isBlank t

/-- The text without the blanks around it. -/
def trim (t : Text) : Text := trimRight (trimLeft t)

/-- The code points that separate records: blank between words, but not around numbers. -/
def separatorCodes : List Nat := [0x1C, 0x1D, 0x1E, 0x1F]

/-- The blanks that may stand around a number. -/
def isPadding (c : Char) : Bool := isBlank c && !separatorCodes.contains c.toNat

/-- The text without the blanks around it that a number may have. -/
def trimPadding (t : Text) : Text := dropWhileEnd isPadding (t.dropWhile isPadding)

/-- Whether nothing but blanks is in the text. -/
def isBlankText (t : Text) : Bool := t.all isBlank

/-! ## Words and lines -/

/-- The maximal runs of characters that are not blank, in order. -/
def words (t : Text) : List Text := (splitWhere isBlank t).filter (! ·.isEmpty)

/-- The lines without their ends; a carriage return and the line feed after it end one line together. -/
def lines : Text → List Text
  | [] => []
  | '\r' :: '\n' :: t => [] :: lines t
  | c :: t =>
    if isBreak c then [] :: lines t
    else match lines t with
      | [] => [[c]]
      | line :: rest => (c :: line) :: rest

end ChatBot.Text
