namespace TerminalSessions.Text

def inRanges (table : List (Nat × Nat)) (c : Char) : Bool :=
  table.any fun range => range.1 ≤ c.toNat && c.toNat ≤ range.2

def blankRanges : List (Nat × Nat) :=
  [
    (0x9, 0xD), (0x20, 0x20), (0x85, 0x85), (0xA0, 0xA0), (0x1680, 0x1680), (0x2000, 0x200A),
    (0x2028, 0x2029), (0x202F, 0x202F), (0x205F, 0x205F), (0x3000, 0x3000)]

def isBlank (c : Char) : Bool :=
  inRanges blankRanges c

def startsWord : List Char → Bool
  | [] => false
  | c :: _ => !isBlank c

def words : List Char → List (List Char)
  | [] => []
  | c :: cs =>
    if isBlank c then words cs
    else
      match startsWord cs, words cs with
      | true, word :: others => (c :: word) :: others
      | _, others => [c] :: others

def wordsOf (line : String) : List String :=
  (words line.toList).map String.ofList

def trimEnd (text : List Char) : List Char :=
  (text.reverse.dropWhile isBlank).reverse

def trim (text : List Char) : List Char :=
  trimEnd (text.dropWhile isBlank)

def byteLines : List UInt8 → List (List UInt8)
  | [] => []
  | byte :: bytes =>
    if byte = 0x0A then [byte] :: byteLines bytes
    else
      match byteLines bytes with
      | [] => [[byte]]
      | line :: lines => (byte :: line) :: lines

def withoutBreak {α : Type} [DecidableEq α] (lineBreak carriageReturn : α) (line : List α) : List α :=
  match line.reverse with
  | [] => []
  | last :: before =>
    if last ≠ lineBreak then line
    else if before.head? = some carriageReturn then before.tail.reverse
    else before.reverse

def decode? (bytes : List UInt8) : Option String :=
  String.fromUTF8? (ByteArray.mk bytes.toArray)

def spaces (count : Nat) : String :=
  String.ofList (List.replicate count ' ')

def alignLeft (width : Nat) (text : String) : String :=
  text ++ spaces (width - text.length)

def alignRight (width : Nat) (text : String) : String :=
  spaces (width - text.length) ++ text

end TerminalSessions.Text
