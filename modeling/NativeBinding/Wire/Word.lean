namespace NativeBinding.Wire

def capacity (width : Nat) : Nat := Nat.pow 256 width

theorem capacity_zero : capacity 0 = 1 := rfl

theorem capacity_succ (width : Nat) : capacity (width + 1) = capacity width * 256 := rfl

theorem capacity_pos (width : Nat) : 0 < capacity width := Nat.pow_pos (by decide)

theorem capacity_four : capacity 4 = 4294967296 := by decide

-- A number in a fixed count of bytes, most significant byte first. Higher
-- digits than fit are dropped.
def wordBytes : Nat → Nat → List UInt8
  | 0,_ => []
  | width + 1,value => UInt8.ofNat (value / capacity width) :: wordBytes width value

def wordValue (bytes : List UInt8) : Nat := bytes.foldl (fun value byte => value * 256 + byte.toNat) 0

theorem wordBytes_length (width value : Nat) : (wordBytes width value).length = width := by
  induction width with
  | zero => rfl
  | succ width ih => simp [wordBytes,ih]

theorem foldl_word (bytes : List UInt8) (start : Nat) :
    bytes.foldl (fun value byte => value * 256 + byte.toNat) start =
      start * capacity bytes.length + wordValue bytes := by
  induction bytes generalizing start with
  | nil => simp [wordValue,capacity_zero]
  | cons byte rest ih =>
    simp only [List.foldl_cons,List.length_cons,wordValue]
    rw [ih,ih (0 * 256 + byte.toNat),capacity_succ,Nat.zero_mul,Nat.zero_add,Nat.add_mul]
    have swap : start * 256 * capacity rest.length = start * (capacity rest.length * 256) := by
      rw [Nat.mul_assoc,Nat.mul_comm 256]
    omega

theorem wordValue_cons (byte : UInt8) (rest : List UInt8) :
    wordValue (byte :: rest) = byte.toNat * capacity rest.length + wordValue rest := by
  simp only [wordValue,List.foldl_cons,Nat.zero_mul,Nat.zero_add]
  exact foldl_word rest byte.toNat

theorem wordValue_lt (bytes : List UInt8) : wordValue bytes < capacity bytes.length := by
  induction bytes with
  | nil => simp [wordValue,capacity_zero]
  | cons byte rest ih =>
    rw [wordValue_cons,List.length_cons,capacity_succ]
    have small := byte.toNat_lt
    have step : byte.toNat * capacity rest.length ≤ 255 * capacity rest.length :=
      Nat.mul_le_mul_right _ (by omega)
    omega

theorem wordValue_wordBytes (width value : Nat) : wordValue (wordBytes width value) = value % capacity width := by
  induction width with
  | zero => simp [wordBytes,wordValue,capacity_zero,Nat.mod_one]
  | succ width ih =>
    have split : value % capacity (width + 1) =
        value % capacity width + capacity width * (value / capacity width % 256) := by
      rw [capacity_succ,Nat.mod_mul]
    have digit : (UInt8.ofNat (value / capacity width)).toNat = value / capacity width % 256 :=
      UInt8.toNat_ofNat'
    rw [wordBytes,wordValue_cons,wordBytes_length,ih,split,digit,Nat.add_comm,Nat.mul_comm]

theorem wordBytes_wordValue (bytes : List UInt8) : wordBytes bytes.length (wordValue bytes) = bytes := by
  have general : ∀ (bytes : List UInt8) (high : Nat),
      wordBytes bytes.length (high * capacity bytes.length + wordValue bytes) = bytes := by
    intro bytes
    induction bytes with
    | nil => intro high; rfl
    | cons byte rest ih =>
      intro high
      have positive : 0 < capacity rest.length := capacity_pos rest.length
      have regroup : high * capacity (rest.length + 1) + (byte.toNat * capacity rest.length + wordValue rest) =
          (high * 256 + byte.toNat) * capacity rest.length + wordValue rest := by
        rw [capacity_succ,Nat.add_mul,Nat.mul_comm (capacity rest.length),← Nat.mul_assoc]
        omega
      rw [wordValue_cons,List.length_cons,regroup,wordBytes,ih]
      have quotient : ((high * 256 + byte.toNat) * capacity rest.length + wordValue rest) / capacity rest.length =
          high * 256 + byte.toNat := by
        rw [Nat.add_comm,Nat.add_mul_div_right _ _ positive,Nat.div_eq_of_lt (wordValue_lt rest),Nat.zero_add]
      rw [quotient]
      congr 1
      apply UInt8.toNat_inj.mp
      have small := byte.toNat_lt
      rw [UInt8.toNat_ofNat']
      omega
  simpa using general bytes 0

def signedWord (width : Nat) (value : Int) : Nat := (value % capacity width).toNat

def signedValue (width value : Nat) : Int :=
  if value < capacity width / 2 then value else (value : Int) - capacity width

theorem signedWord_small {number : Nat} (small : number < 0x80000000) : signedWord 4 number = number := by
  simp only [signedWord,capacity_four]
  omega

end NativeBinding.Wire
