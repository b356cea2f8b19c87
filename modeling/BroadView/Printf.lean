import Mathlib.Data.List.Basic
import Mathlib.Tactic.Linarith

namespace BroadView.Printf

inductive Arg where
  | int (value : Int)
  | str (value : List Char)
  | u64 (value : UInt64)
  deriving DecidableEq, Repr

def showNat (n : Nat) : List Char := Nat.toDigits 10 n

def showInt : Int → List Char
  | .ofNat n => showNat n
  | .negSucc n => '-' :: showNat (n + 1)

def Arg.text : Arg → List Char
  | .int value => showInt value
  | .str value => value
  | .u64 value => showNat value.toNat

-- The text that snprintf makes of a template, before it is cut to a size. The
-- flag for a leading space applies to signed conversions only.
def format : List Char → List Arg → List Char
  | '%' :: 'd' :: rest, arg :: args => arg.text ++ format rest args
  | '%' :: 's' :: rest, arg :: args => arg.text ++ format rest args
  | '%' :: 'l' :: 'u' :: rest, arg :: args => arg.text ++ format rest args
  | '%' :: ' ' :: 'l' :: 'u' :: rest, arg :: args => arg.text ++ format rest args
  | c :: rest, args => c :: format rest args
  | [], _ => []

-- How many arguments a template prints.
def directives : List Char → Nat
  | '%' :: 'd' :: rest => directives rest + 1
  | '%' :: 's' :: rest => directives rest + 1
  | '%' :: 'l' :: 'u' :: rest => directives rest + 1
  | '%' :: ' ' :: 'l' :: 'u' :: rest => directives rest + 1
  | _ :: rest => directives rest
  | [] => 0

def printed (template : List Char) (args : List Arg) : List Arg :=
  args.take (directives template)

theorem format_length_le (template : List Char) (args : List Arg) :
    (format template args).length ≤
      template.length + (args.map fun arg => arg.text.length).sum := by
  fun_induction format template args <;> simp_all <;> omega

-- What stands before the next directive is copied.
theorem format_copies {text : List Char} (h : '%' ∉ text) (rest : List Char) (args : List Arg) :
    format (text ++ rest) args = text ++ format rest args := by
  induction text with
  | nil => rfl
  | cons c text ih =>
      obtain ⟨hc, htext⟩ := not_or.mp (mt List.mem_cons.mpr h)
      have hcopied : format (c :: (text ++ rest)) args = c :: format (text ++ rest) args := by
        rw [format]
        all_goals
          intros
          exact absurd ‹c = '%'›.symm hc
      rw [List.cons_append, hcopied, ih htext, List.cons_append]

theorem format_str (value rest : List Char) (args : List Arg) :
    format ('%' :: 's' :: rest) (.str value :: args) = value ++ format rest args := by
  rw [format]
  rfl

theorem format_int (value : Int) (rest : List Char) (args : List Arg) :
    format ('%' :: 'd' :: rest) (.int value :: args) = showInt value ++ format rest args := by
  rw [format]
  rfl

theorem getLast?_of_append (directive : List Char) {rest : List Char} {c : Char}
    (hdirective : directive.getLast? ≠ some c) (h : (directive ++ rest).getLast? = some c) :
    rest.getLast? = some c := by
  rw [List.getLast?_append] at h
  cases hrest : rest.getLast? with
  | none => exact absurd (by simpa [hrest] using h) hdirective
  | some last => simpa [hrest] using h

-- A template that does not end in a directive fixes the last character.
theorem format_getLast? (template : List Char) (args : List Arg) {c : Char}
    (hlast : template.getLast? = some c) (hc : c ≠ 'd' ∧ c ≠ 's' ∧ c ≠ 'u') :
    (format template args).getLast? = some c := by
  obtain ⟨hd, hs, hu⟩ := hc
  fun_induction format template args with
  | case1 rest arg args ih =>
      have hrest := ih (getLast?_of_append ['%', 'd'] (by simp [hd.symm]) hlast)
      simp [hrest]
  | case2 rest arg args ih =>
      have hrest := ih (getLast?_of_append ['%', 's'] (by simp [hs.symm]) hlast)
      simp [hrest]
  | case3 rest arg args ih =>
      have hrest := ih (getLast?_of_append ['%', 'l', 'u'] (by simp [hu.symm]) hlast)
      simp [hrest]
  | case4 rest arg args ih =>
      have hrest := ih (getLast?_of_append ['%', ' ', 'l', 'u'] (by simp [hu.symm]) hlast)
      simp [hrest]
  | case5 c' rest args _ _ _ _ ih =>
      cases rest with
      | nil => simpa [format] using hlast
      | cons next rest =>
          have hrest := ih (by rwa [List.getLast?_cons_cons] at hlast)
          simp [List.getLast?_cons, hrest]
  | case6 => cases hlast

section Decimal

variable (n k : Nat)

theorem showNat_digit {c : Char} (hc : c ∈ showNat n) : c.isDigit = true :=
  Nat.isDigit_of_mem_toDigits (by decide) (by decide) hc

theorem showNat_ne_nil : showNat n ≠ [] := Nat.toDigits_ne_nil

theorem showNat_length_le (hk : 0 < k) (hn : n < 10 ^ k) : (showNat n).length ≤ k :=
  (Nat.length_toDigits_le_iff (by decide) hk).mpr hn

theorem showInt_length_le (i : Int) (hk : 0 < k) (hi : i.natAbs < 10 ^ k) :
    (showInt i).length ≤ k + 1 := by
  cases i with
  | ofNat n => exact Nat.le_succ_of_le (showNat_length_le n k hk hi)
  | negSucc n => exact Nat.succ_le_succ (showNat_length_le (n + 1) k hk hi)

theorem int32_length_le (i : Int32) : (showInt i.toInt).length ≤ 11 :=
  showInt_length_le 10 i.toInt (by decide) (by
    have hlow := i.le_toInt
    have hhigh := i.toInt_lt
    omega)

end Decimal

end BroadView.Printf
