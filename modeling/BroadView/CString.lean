import BroadView.Printf
import Mathlib.Data.List.ReduceOption
import Mathlib.Data.List.TakeWhile

-- A C string is the list of its characters before the terminator.
namespace BroadView.CString

open Printf

-- What repeated calls of strtok with a one-character delimiter return: runs of
-- delimiters count as one, and no token is empty.
def strtok (delim : Char) (s : List Char) : List (List Char) :=
  (s.splitOn delim).filter fun token => !token.isEmpty

def isspace (c : Char) : Bool :=
  c = ' ' || (9 ≤ c.toNat && c.toNat ≤ 13)

-- The value of the longest decimal prefix, 0 when there is none.
def decimal (s : List Char) : Nat := Nat.ofDigitChars 10 (s.takeWhile Char.isDigit) 0

def signed : List Char → Int
  | '-' :: rest => -(decimal rest : Int)
  | '+' :: rest => decimal rest
  | s => decimal s

-- The result of strtol saturates at the bounds of a 64-bit long.
def strtol (s : List Char) : Int :=
  max (-2 ^ 63) (min (2 ^ 63 - 1) (signed (s.dropWhile isspace)))

-- atoi converts the result of strtol to an int.
def atoi (s : List Char) : Int32 := Int32.ofInt (strtol s)

-- strncat appends at most size characters.
def strncat (s t : List Char) (size : Nat) : List Char := s ++ t.take size

theorem strncat_eq {s t : List Char} {size : Nat} (h : t.length ≤ size) :
    strncat s t size = s ++ t := by
  rw [strncat, List.take_of_length_le h]

-- A character array; none is the terminator.
structure Buffer (size : Nat) where
  bytes : List (Option Char)
  length_eq : bytes.length = size
  deriving DecidableEq, Repr

def Buffer.zeroed (size : Nat) : Buffer size :=
  { bytes := List.replicate size none, length_eq := List.length_replicate }

-- The characters before the first terminator, and whether there is one.
def string : List (Option Char) → Option (List Char)
  | [] => none
  | none :: _ => some []
  | some c :: rest => (string rest).map (c :: ·)

def Buffer.string {size : Nat} (buffer : Buffer size) : Option (List Char) :=
  CString.string buffer.bytes

-- strncpy writes count bytes: the string as far as it fits, then terminators.
def strncpy {size : Nat} (dest : Buffer size) (src : List Char) (count : Nat)
    (hcount : count ≤ size) : Buffer size :=
  { bytes := (src.take count).map some ++ List.replicate (count - src.length) none ++
      dest.bytes.drop count
    length_eq := by
      have hdest := dest.length_eq
      simp only [List.length_append, List.length_map, List.length_take, List.length_replicate,
        List.length_drop]
      omega }

-- What strncpy reads from a buffer.
def Buffer.prefixString {size : Nat} (buffer : Buffer size) (count : Nat) : List Char :=
  ((buffer.bytes.take count).takeWhile Option.isSome).reduceOption

section Strtok

variable {delim : Char}

theorem not_delim {token : List Char} (h : delim ∉ token) :
    ∀ c ∈ token, (c == delim) = false := by
  rintro c hc
  exact beq_false_of_ne fun heq => h (heq ▸ hc)

theorem strtok_token {token : List Char} (hne : token ≠ []) (h : delim ∉ token) :
    strtok delim token = [token] := by
  have hsplit : token.splitOn delim = [token] :=
    List.splitOnP_eq_singleton (not_delim h)
  simp [strtok, hsplit, hne]

theorem strtok_cons {token : List Char} (rest : List Char) (hne : token ≠ [])
    (h : delim ∉ token) :
    strtok delim (token ++ delim :: rest) = token :: strtok delim rest := by
  have hsplit : (token ++ delim :: rest).splitOn delim = token :: rest.splitOn delim :=
    List.splitOnP_append_cons_of_forall_mem (not_delim h) delim (by simp) rest
  simp [strtok, hsplit, hne]

end Strtok

section Strncpy

variable {size count : Nat} (dest : Buffer size) {src : List Char}

theorem string_map_append (src : List Char) (rest : List (Option Char)) :
    string (src.map some ++ rest) = (string rest).map (src ++ ·) := by
  induction src with
  | nil => cases h : string rest <;> simp [h]
  | cons c src ih =>
      simp only [List.map_cons, List.cons_append, string, ih, Option.map_map]
      rfl

theorem string_strncpy_eq (hcount : count ≤ size) :
    (strncpy dest src count hcount).string =
      (string (List.replicate (count - src.length) none ++ dest.bytes.drop count)).map
        (src.take count ++ ·) := by
  have hbytes : (strncpy dest src count hcount).string =
      string ((src.take count).map some ++
        List.replicate (count - src.length) none ++ dest.bytes.drop count) := rfl
  rw [hbytes, List.append_assoc, string_map_append]

-- A string shorter than the count is copied with a terminator.
theorem string_strncpy (hcount : count ≤ size) (hlength : src.length < count) :
    (strncpy dest src count hcount).string = some src := by
  obtain ⟨pad, hpad⟩ := Nat.exists_eq_add_of_lt hlength
  have hzero : count - src.length = pad + 1 := by omega
  rw [string_strncpy_eq, List.take_of_length_le (by omega), hzero, List.replicate_succ]
  simp [string]

-- A buffer that ends in a terminator behind the count keeps it.
theorem drop_strncpy (hcount : count ≤ size) :
    (strncpy dest src count hcount).bytes.drop count = dest.bytes.drop count := by
  have hlength : ((src.take count).map some ++
      List.replicate (count - src.length) (none : Option Char)).length = count := by
    simp only [List.length_append, List.length_map, List.length_take, List.length_replicate]
    omega
  exact List.drop_left' hlength

theorem string_strncpy_terminated (hcount : count ≤ size) {rest : List (Option Char)}
    (hdrop : dest.bytes.drop count = none :: rest) :
    (strncpy dest src count hcount).string = some (src.take count) := by
  have hpad : string (List.replicate (count - src.length) none ++ dest.bytes.drop count) =
      some [] := by
    rw [hdrop]
    cases count - src.length <;> simp [List.replicate_succ, string]
  rw [string_strncpy_eq, hpad, Option.map_some, List.append_nil]

-- A string that fills the whole buffer is left without a terminator.
theorem string_strncpy_full (hlength : size ≤ src.length) :
    (strncpy dest src size le_rfl).string = none := by
  have hdrop : dest.bytes.drop size = [] := List.drop_of_length_le dest.length_eq.le
  have hpad : size - src.length = 0 := by omega
  rw [string_strncpy_eq, hpad, hdrop]
  simp [string]

theorem prefixString_of_string {buffer : Buffer size} (h : buffer.string = some src)
    (hlength : src.length ≤ count) : buffer.prefixString count = src := by
  have hbytes : ∀ (src : List Char) (bytes : List (Option Char)) (count : Nat),
      string bytes = some src → src.length ≤ count →
      ((bytes.take count).takeWhile Option.isSome).reduceOption = src := by
    intro src bytes
    induction bytes generalizing src with
    | nil => intro count h; cases h
    | cons byte rest ih =>
        intro count h hlength
        cases byte with
        | none =>
            obtain rfl := Option.some.inj h
            cases count <;> simp
        | some c =>
            obtain ⟨tail, htail, rfl⟩ := Option.map_eq_some_iff.mp h
            obtain ⟨count, rfl⟩ : ∃ n, count = n + 1 := ⟨count - 1, by
              simp only [List.length_cons] at hlength
              omega⟩
            have hrest := ih tail count htail (by simpa using hlength)
            simp [hrest]
  exact hbytes src buffer.bytes count h hlength

end Strncpy

section Atoi

theorem isDigit_not_space {c : Char} (h : c.isDigit = true) : isspace c = false := by
  simp only [Char.isDigit, Bool.and_eq_true, decide_eq_true_eq, isspace, Bool.or_eq_false_iff,
    Bool.and_eq_false_iff, decide_eq_false_iff_not] at h ⊢
  have hlow : 48 ≤ c.toNat := h.1
  refine ⟨?_, Or.inr (by omega)⟩
  rintro rfl
  exact absurd hlow (by decide)

theorem signed_of_digit {c : Char} {rest : List Char} (h : c.isDigit = true) :
    signed (c :: rest) = decimal (c :: rest) := by
  have hminus : c ≠ '-' := by rintro rfl; exact absurd h (by decide)
  have hplus : c ≠ '+' := by rintro rfl; exact absurd h (by decide)
  rw [signed]
  · exact fun rest heq => hminus (List.cons.inj heq).1
  · exact fun rest heq => hplus (List.cons.inj heq).1

theorem decimal_showNat (n : Nat) : decimal (showNat n) = n := by
  have hdigits : (showNat n).takeWhile Char.isDigit = showNat n :=
    List.takeWhile_eq_self_iff.mpr fun c hc => showNat_digit n hc
  rw [decimal, hdigits]
  exact Nat.ofDigitChars_ten_toDigits

theorem signed_showInt (i : Int) : signed ((showInt i).dropWhile isspace) = i := by
  cases i with
  | ofNat n =>
      obtain ⟨c, rest, hcons⟩ := List.exists_cons_of_ne_nil (showNat_ne_nil n)
      have hdigit : c.isDigit = true := showNat_digit n (hcons ▸ List.mem_cons_self)
      rw [showInt, hcons, List.dropWhile_cons_of_neg (by simp [isDigit_not_space hdigit]),
        signed_of_digit hdigit, ← hcons, decimal_showNat]
      rfl
  | negSucc n =>
      rw [showInt, List.dropWhile_cons_of_neg (by decide), signed, decimal_showNat]
      rfl

theorem strtol_showInt {i : Int} (hlow : -2 ^ 63 ≤ i) (hhigh : i < 2 ^ 63) :
    strtol (showInt i) = i := by
  rw [strtol, signed_showInt, min_eq_right (by omega), max_eq_right hlow]

-- Reading back what a signed conversion printed.
theorem atoi_showInt (i : Int32) : atoi (showInt i.toInt) = i := by
  have hlow := i.le_toInt
  have hhigh := i.toInt_lt
  rw [atoi, strtol_showInt (by omega) (by omega), Int32.ofInt_toInt]

theorem showInt_ne_nil (i : Int) : showInt i ≠ [] := by
  cases i with
  | ofNat n => exact showNat_ne_nil n
  | negSucc n => exact List.cons_ne_nil _ _

theorem mem_showInt {i : Int} {c : Char} (hc : c ∈ showInt i) : c = '-' ∨ c.isDigit = true := by
  cases i with
  | ofNat n => exact Or.inr (showNat_digit n hc)
  | negSucc n =>
      rcases List.mem_cons.mp hc with rfl | hdigit
      · exact Or.inl rfl
      · exact Or.inr (showNat_digit (n + 1) hdigit)

end Atoi

end BroadView.CString
