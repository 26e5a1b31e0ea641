/-!
Text is a list of characters, so that what a command, a template or a file means can be argued by induction on it.
This module holds the operations that look at characters only through an explicit test: leading parts, cutting at a
separator, replacing, shortening, and the decimal spelling of whole numbers.
-/
set_option autoImplicit false

namespace ChatBot

/-- Text, as the list of its characters. These are characters in full: no text has a lone half of one in it, and what is said of
every text is said of texts without halves. Where a half gets into a text all the same, since an escape in a document can write
one, some character stands for it; `Runtime` says which, and where such a text is used that cannot be encoded, it fails. -/
abbrev Text := List Char

/-- A string literal may stand wherever text is expected. -/
instance : Coe String Text := ⟨String.toList⟩

namespace Text

/-! ## Leading parts -/

/-- What follows `lead` in a text that starts with it. -/
def after? : Text → Text → Option Text
  | [], t => some t
  | _ :: _, [] => none
  | a :: lead, c :: t => if a = c then after? lead t else none

/-- The text without one leading `lead`; the text itself when it starts otherwise. -/
def dropLeading (lead t : Text) : Text := (after? lead t).getD t

/-- Whether the text starts with `lead`. -/
def startsWith (lead t : Text) : Bool := (after? lead t).isSome

/-- The text without the characters at its end that satisfy `p`. -/
def dropWhileEnd (p : Char → Bool) (t : Text) : Text := (t.reverse.dropWhile p).reverse

/-- Whether the text ends with `tail`. -/
def endsWith (tail t : Text) : Bool := startsWith tail.reverse t.reverse

/-! ## Cutting and joining -/

/-- The pieces between the characters that satisfy `p`, empty pieces included; there is always one. -/
def splitWhere (p : Char → Bool) : Text → List Text
  | [] => [[]]
  | c :: t =>
    if p c then [] :: splitWhere p t
    else match splitWhere p t with
      | [] => [[c]]
      | piece :: pieces => (c :: piece) :: pieces

/-- The pieces between the occurrences of one separator. -/
def splitOn (separator : Char) (t : Text) : List Text := splitWhere (· == separator) t

/-- The pieces one after the other, with `between` in each gap. -/
def join (between : Text) (pieces : List Text) : Text := between.intercalate pieces

/-! ## Replacing -/

/-- Replaces from left to right, passing over the next `skip` characters, which belong to a match already replaced. -/
def replaceFrom (old new : Text) : Nat → Text → Text
  | _, [] => []
  | skip + 1, _ :: t => replaceFrom old new skip t
  | 0, c :: t =>
    if startsWith old (c :: t) then new ++ replaceFrom old new (old.length - 1) t
    else c :: replaceFrom old new 0 t

/-- Every occurrence of the non-empty text `old`, found from left to right without overlap, replaced by `new`. -/
def replaceAll (old new t : Text) : Text := replaceFrom old new 0 t

/-! ## Shortening -/

/-- The text itself when it has at most `limit` characters, else its first `limit - 1` characters. -/
def shrink (limit : Int) (t : Text) : Text :=
  if (t.length : Int) ≤ limit then t else t.take (limit - 1).toNat

/-! ## Whole numbers -/

/-- The decimal digits of a natural number. -/
def ofNat (n : Nat) : Text := Nat.toDigits 10 n

/-- The decimal spelling of an integer, a minus sign before a negative one. -/
def ofInt : Int → Text
  | .ofNat n => ofNat n
  | .negSucc n => '-' :: ofNat (n + 1)

/-- The digits of `n` in lower-case hexadecimal, padded with zeros to `width`. -/
def hexadecimal (width n : Nat) : Text :=
  let digits := Nat.toDigits 16 n
  List.replicate (width - digits.length) '0' ++ digits

/-- The text followed by blanks up to `width` characters. -/
def padRight (width : Nat) (t : Text) : Text := t ++ List.replicate (width - t.length) ' '

end Text
end ChatBot
