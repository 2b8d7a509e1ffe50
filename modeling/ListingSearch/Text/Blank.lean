/-!
Blank characters, trimming, and cutting text at a separator. A text is blank when it holds
nothing but blank characters; trimming removes them at both ends and nowhere else.
-/
namespace ListingSearch.Text

/-- The blank characters: the ASCII controls and separators that count as space, and the space
separators of the other scripts. The zero-width characters are not among them. -/
def isBlankChar (c : Char) : Bool :=
  let n := c.toNat
  (0x09 ≤ n && n ≤ 0x0D) || (0x1C ≤ n && n ≤ 0x20) || n == 0x85 || n == 0xA0 || n == 0x1680 ||
    (0x2000 ≤ n && n ≤ 0x200A) || n == 0x2028 || n == 0x2029 || n == 0x202F || n == 0x205F ||
    n == 0x3000

/-- The blank characters that may surround a number: all but the four separator controls. -/
def isSpaceChar (c : Char) : Bool := isBlankChar c && !(0x1C ≤ c.toNat && c.toNat ≤ 0x1F)

def trimWhile (inClass : Char → Bool) (cs : List Char) : List Char :=
  ((cs.dropWhile inClass).reverse.dropWhile inClass).reverse

def trim (s : String) : String := String.ofList (trimWhile isBlankChar s.toList)

/-- Whether every character is blank; the empty text is blank. -/
def isBlank (s : String) : Bool := s.toList.all isBlankChar

/-- The pieces between the separators; one more than there are separators. -/
def pieces (separator : Char) : List Char → List (List Char)
  | [] => [[]]
  | c :: cs =>
    if c = separator then [] :: pieces separator cs
    else
      match pieces separator cs with
      | [] => [[c]]
      | p :: ps => (c :: p) :: ps

def split (separator : Char) (s : String) : List String :=
  (pieces separator s.toList).map String.ofList

/-- The text before the first separator and the text after it; without a separator the second
part is empty. -/
def cut (separator : Char) (s : String) : String × String :=
  let before := s.toList.takeWhile (· != separator)
  (String.ofList before, String.ofList (s.toList.drop (before.length + 1)))

def occursIn (needle : List Char) : List Char → Bool
  | [] => needle.isEmpty
  | c :: cs => needle.isPrefixOf (c :: cs) || occursIn needle cs

theorem pieces_ne_nil (separator : Char) (cs : List Char) : pieces separator cs ≠ [] := by
  induction cs with
  | nil => simp [pieces]
  | cons c cs ih =>
    unfold pieces
    split
    · simp
    · split <;> simp

theorem occursIn_iff (needle text : List Char) :
    occursIn needle text = true ↔ needle <:+: text := by
  induction text with
  | nil => simp [occursIn]
  | cons c cs ih =>
    rw [occursIn, Bool.or_eq_true, ih, List.isPrefixOf_iff_prefix, List.infix_cons_iff]

example : trim " a b\t" = "a b" := by decide
example : trimWhile isSpaceChar ['\x1C', ' '] = ['\x1C'] := by decide
example : split ',' "a,,b" = ["a", "", "b"] := by decide
example : cut '-' "a-b-c" = ("a", "b-c") := by decide

end ListingSearch.Text
