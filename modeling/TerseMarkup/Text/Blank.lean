/-!
# Blank characters and trimming

The white space of Unicode, and the removal of it from both ends of a text.
Text under examination is a list of characters throughout the library.
-/

namespace TerseMarkup.Text

/-- `isBlank character` holds of the characters with the Unicode property
`White_Space`. -/
def isBlank (character : Char) : Bool :=
  let code := character.toNat
  (0x09 ≤ code && code ≤ 0x0D) || code == 0x20 || code == 0x85 ||
    code == 0xA0 || code == 0x1680 || (0x2000 ≤ code && code ≤ 0x200A) ||
    code == 0x2028 || code == 0x2029 || code == 0x202F ||
    code == 0x205F || code == 0x3000

def trimStart (text : List Char) : List Char :=
  text.dropWhile isBlank

def trimEnd (text : List Char) : List Char :=
  (text.reverse.dropWhile isBlank).reverse

def trim (text : List Char) : List Char :=
  trimEnd (trimStart text)

/-- `endsWith ending text` decides whether `text` ends with `ending`. -/
def endsWith (ending text : List Char) : Bool :=
  ending.isSuffixOf text

@[simp] theorem trimStart_nil : trimStart [] = [] := rfl

@[simp] theorem trimEnd_nil : trimEnd [] = [] := rfl

@[simp] theorem trim_nil : trim [] = [] := rfl

end TerseMarkup.Text
