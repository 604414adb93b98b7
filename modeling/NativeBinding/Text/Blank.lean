namespace NativeBinding.Text

-- White space of every script (Unicode 14), the information separators included.
def isBlank (c : Char) : Bool :=
  let n := c.toNat
  9 ≤ n && n ≤ 13 || 28 ≤ n && n ≤ 32 || n == 0x85 || n == 0xA0 || n == 0x1680 ||
    0x2000 ≤ n && n ≤ 0x200A || n == 0x2028 || n == 0x2029 || n == 0x202F || n == 0x205F || n == 0x3000

def dropBlank (s : List Char) : List Char := s.dropWhile isBlank

def trimEnd (s : List Char) : List Char :=
  s.foldr (fun c rest => if rest.isEmpty && isBlank c then [] else c :: rest) []

def trim (s : List Char) : List Char := trimEnd (dropBlank s)

def pieces (cut : Char → Bool) : List Char → List (List Char)
  | [] => [[]]
  | c :: rest =>
    if cut c then [] :: pieces cut rest
    else match pieces cut rest with
      | [] => [[c]]
      | piece :: others => (c :: piece) :: others

theorem pieces_ne_nil (cut : Char → Bool) (s : List Char) : pieces cut s ≠ [] := by
  cases s with
  | nil => simp [pieces]
  | cons c rest =>
    unfold pieces
    split
    · simp
    · split <;> simp

def tokens (s : List Char) : List (List Char) := (pieces isBlank s).filter (fun piece => !piece.isEmpty)

end NativeBinding.Text
