/-!
# Blank characters

The characters that separate and surround words: the space, the line breaks and the other
separators of every script. Trimming removes them from both ends of a text.
-/

namespace StoryCatalog.Text

/-- The blank code points: control separators, spaces of every width, line and paragraph breaks. -/
def isBlankCode (n : Nat) : Bool :=
  (9 ≤ n && n ≤ 13) || (28 ≤ n && n ≤ 32) || n == 0x85 || n == 0xA0 || n == 0x1680 ||
    (0x2000 ≤ n && n ≤ 0x200A) || n == 0x2028 || n == 0x2029 || n == 0x202F || n == 0x205F ||
    n == 0x3000

def isBlank (c : Char) : Bool :=
  isBlankCode c.toNat

/-- The blank characters that a number's text may be surrounded by: all but the four control characters
that separate records. -/
def isNumberBlank (c : Char) : Bool :=
  isBlank c && !(28 ≤ c.toNat && c.toNat ≤ 31)

/-- The text without the end that satisfies `p`. -/
def dropEnd {α : Type} (p : α → Bool) (text : List α) : List α :=
  (text.reverse.dropWhile p).reverse

/-- The text without the blanks at either end. -/
def trim (text : List Char) : List Char :=
  dropEnd isBlank (text.dropWhile isBlank)

def trimString (text : String) : String :=
  String.ofList (trim text.toList)

@[simp] theorem trim_nil : trim [] = [] := rfl

end StoryCatalog.Text
