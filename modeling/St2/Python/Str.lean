import St2.Python.Value
import Mathlib.Data.List.Basic
import Mathlib.Data.List.Infix
import Mathlib.Data.String.Basic
import Mathlib.Data.Nat.Digits

/-!
# Python 2 string operations

The methods of `str` that the action client calls, on byte strings in the C locale:
`isspace`, `strip`, `split` with a one-character separator, `join`, `capitalize`,
`startswith`, `in`, and `split` with a limit of one. Also `repr` of a byte
string and the base-10 `int()` of one, whose error message quotes its input through
`repr`.

* `split_join` recovers a list from its `join` when no element holds the separator
  and the list is not empty; `split_empty` gives `[""]` for the empty string.
* `strip_eq_self` leaves a string without surrounding whitespace as it is.
* `int_toString`: `int(str(n))` is `n` for every integer `n`.
-/

namespace St2

namespace Str

/-! ### Whitespace and `strip` -/

/-- `c.isspace()` for one byte in the C locale: space, tab, newline, carriage return,
vertical tab and form feed. -/
def isSpace (c : Char) : Bool :=
  c = ' ' || c = '\t' || c = '\n' || c = '\r' || c = '\x0b' || c = '\x0c'

/-- `s.strip()`: the string without its leading and trailing whitespace. -/
def strip (s : String) : String :=
  ⟨((s.data.dropWhile isSpace).reverse.dropWhile isSpace).reverse⟩

/-- A string has surrounding whitespace when its first or its last byte is whitespace. -/
def HasSurroundingSpace (s : String) : Prop :=
  s.data.head?.any isSpace ∨ s.data.getLast?.any isSpace

theorem isEmpty_eq_false {s : String} (h : s ≠ "") : s.isEmpty = false :=
  Bool.eq_false_iff.mpr (mt (String.isEmpty_iff s).mp h)

instance : DecidablePred HasSurroundingSpace :=
  fun _ => inferInstanceAs (Decidable (_ ∨ _))

theorem dropWhile_eq_self {l : List Char} (h : ¬ l.head?.any isSpace) :
  l.dropWhile isSpace = l
  := by
  cases l with
  | nil => rfl
  | cons c l => simp_all [List.dropWhile_cons]

theorem strip_eq_self {s : String} (h : ¬ HasSurroundingSpace s) : strip s = s := by
  obtain ⟨hhead, hlast⟩ := not_or.mp h
  have hrev : ¬ s.data.reverse.head?.any isSpace := by
    rwa [List.head?_reverse]
  simp only [strip, dropWhile_eq_self hhead, dropWhile_eq_self hrev, List.reverse_reverse]

/-! ### `split` and `join` -/

/-- `s.split(sep)` for a one-character separator: the pieces between the
occurrences of `sep`, empty pieces included. -/
def split (s : String) (sep : Char) : List String :=
  (s.data.splitOn sep).map String.mk

/-- `sep.join(xs)`. -/
def join (sep : String) (xs : List String) : String :=
  ⟨sep.data.intercalate (xs.map String.data)⟩

theorem split_join {xs : List String} {sep : Char} (hne : xs ≠ [])
    (hsep : ∀ x ∈ xs, sep ∉ x.data) :
  split (join ⟨[sep]⟩ xs) sep = xs
  := by
  have hmap : xs.map String.data ≠ [] := by simpa using hne
  have hsep' : ∀ l ∈ xs.map String.data, sep ∉ l := by simpa using hsep
  simp only [split, join, List.splitOn_intercalate _ sep hsep' hmap, List.map_map]
  exact List.map_id' xs

@[simp] theorem split_empty (sep : Char) : split "" sep = [""] := rfl

@[simp] theorem join_nil (sep : String) : join sep [] = "" := rfl

/-! ### `capitalize` -/

/-- `s.capitalize()`: the first byte in upper case, the others in lower case (ASCII
letters only, as in the C locale). -/
def capitalize (s : String) : String :=
  match s.data with
  | [] => ""
  | c :: cs => ⟨c.toUpper :: cs.map Char.toLower⟩

/-! ### Prefixes, substrings and `split('=', 1)` -/

/-- `s.startswith(c)` for a one-character prefix. -/
def startsWith (s : String) (c : Char) : Bool := s.data.head? == some c

/-- `sub in s`: `sub` occurs in `s` as a contiguous substring. -/
def contains (s sub : String) : Bool := decide (sub.data <:+: s.data)

/-- `s.split(sep, 1)` when `sep` occurs in `s`: the part before its first occurrence
and the part after it. -/
def splitFirst (s : String) (sep : Char) : String × String :=
  (⟨s.data.takeWhile (· != sep)⟩, ⟨(s.data.dropWhile (· != sep)).drop 1⟩)

theorem splitFirst_spec {s : String} {sep : Char} (h : sep ∈ s.data) :
  s.data = (splitFirst s sep).1.data ++ sep :: (splitFirst s sep).2.data
    ∧ sep ∉ (splitFirst s sep).1.data
  := by
  obtain ⟨l⟩ := s
  induction l with
  | nil => simp at h
  | cons c l ih =>
    by_cases hc : c = sep
    · subst hc
      simp [splitFirst]
    · have hb : (c != sep) = true := by simpa using hc
      obtain ⟨heq, hnot⟩ := ih (by simpa [Ne.symm hc] using h)
      simp only [splitFirst, List.takeWhile_cons, List.dropWhile_cons, hb, ite_true,
        List.cons_append, List.cons.injEq, true_and, List.mem_cons, not_or] at heq hnot ⊢
      exact ⟨heq, Ne.symm hc, hnot⟩

/-- A string holding `=` is its part before the first `=`, which holds none, then `=`, then
the rest. -/
theorem eq_splitFirst_append {s : String} (h : '=' ∈ s.data) :
  s = (splitFirst s '=').1 ++ "=" ++ (splitFirst s '=').2 ∧ '=' ∉ (splitFirst s '=').1.data
  := by
  obtain ⟨hdata, hnot⟩ := splitFirst_spec h
  exact ⟨String.ext (by simpa using hdata), hnot⟩

/-- The split at the first `=` is the inverse of joining a key without `=` to a value. -/
theorem splitFirst_append {k v : String} (hk : '=' ∉ k.data) :
  splitFirst (k ++ "=" ++ v) '=' = (k, v)
  := by
  have hne : ∀ c ∈ k.data, (c != '=') = true := fun c hc => by
    simpa using fun h : c = '=' => hk (h ▸ hc)
  show (String.mk ((k.data ++ ['='] ++ v.data).takeWhile (· != '=')),
      String.mk (((k.data ++ ['='] ++ v.data).dropWhile (· != '=')).drop 1)) = (k, v)
  simp [List.takeWhile_append_of_pos hne, List.dropWhile_append_of_pos hne]

/-! ### `repr` and `int()` -/

/-- The two lowercase hexadecimal digits of a byte. -/
def hexByte (n : Nat) : List Char := [Nat.digitChar (n / 16 % 16), Nat.digitChar (n % 16)]

/-- One byte as `repr` writes it between the quotes `q`. -/
def reprByte (q c : Char) : List Char :=
  if c = q || c = '\\' then ['\\', c]
  else if c = '\t' then ['\\', 't']
  else if c = '\n' then ['\\', 'n']
  else if c = '\r' then ['\\', 'r']
  else if c.toNat < 32 || 127 ≤ c.toNat then '\\' :: 'x' :: hexByte c.toNat
  else [c]

/-- `repr(s)` of a byte string: in single quotes, unless it holds a single quote and no
double quote. -/
def repr (s : String) : String :=
  let q := if '\x27' ∈ s.data ∧ '"' ∉ s.data then '"' else '\x27'
  ⟨q :: s.data.flatMap (reprByte q) ++ [q]⟩

/-- The value of a list of decimal digits. -/
def decimalValue (ds : List Char) : Nat := ds.foldl (fun n d => 10 * n + (d.toNat - 48)) 0

/-- The integer a string starting at a non-whitespace byte denotes for `int()`: an
optional sign, optional whitespace, at least one digit, then only whitespace. -/
def readInt (s : List Char) : Option Int :=
  let (neg, t) : Bool × List Char := match s with
    | '-' :: t => (true, t)
    | '+' :: t => (false, t)
    | t => (false, t)
  let t := t.dropWhile isSpace
  let ds := t.takeWhile Char.isDigit
  if ds ≠ [] ∧ (t.dropWhile Char.isDigit).all isSpace then
    some (if neg then -(decimalValue ds : Int) else decimalValue ds)
  else none

/-- `int(x)` for a byte string, in base 10 (`PyInt_FromString` of Python 2.7). Leading
whitespace is skipped; what remains must be read by `readInt`, or `ValueError` quotes it
through `repr`, cut to 200 bytes. Command-line tokens hold no NUL byte, so the NUL check of
`int_from_string` is left out. -/
def int (x : String) : Except PyExc PyVal :=
  let s := x.data.dropWhile isSpace
  match readInt s with
  | some n => .ok (.int n)
  | none =>
    .error (.valueError ("invalid literal for int() with base 10: " ++ repr ⟨s.take 200⟩))

theorem isSpace_eq_false_of_isDigit {c : Char} (h : c.isDigit) : isSpace c = false := by
  by_contra hs
  simp only [isSpace, Bool.not_eq_false, Bool.or_eq_true, decide_eq_true_eq] at hs
  rcases hs with (((((rfl | rfl) | rfl) | rfl) | rfl) | rfl) <;> exact absurd h (by decide)

section Digits

variable {ds : List Char} (hne : ds ≠ []) (hd : ∀ c ∈ ds, c.isDigit)

include hne hd in
theorem dropWhile_isSpace_of_digits : ds.dropWhile isSpace = ds := by
  obtain ⟨c, cs, rfl⟩ := List.exists_cons_of_ne_nil hne
  simp [List.dropWhile_cons, isSpace_eq_false_of_isDigit (hd c (List.mem_cons_self c cs))]

include hne hd in
theorem readInt_digits : readInt ds = some (decimalValue ds : Int) := by
  obtain ⟨c, cs, rfl⟩ := List.exists_cons_of_ne_nil hne
  have hc : c.isDigit := hd c (List.mem_cons_self c cs)
  unfold readInt
  split
  rename_i neg t heq
  split at heq
  case h_1 h | h_2 h =>
    obtain ⟨rfl, -⟩ := List.cons.inj h
    exact absurd hc (by decide)
  case h_3 =>
    obtain ⟨rfl, rfl⟩ := Prod.mk.inj heq
    simp [dropWhile_isSpace_of_digits hne hd, List.takeWhile_eq_self_iff.mpr hd,
      List.dropWhile_eq_nil_iff.mpr hd]

include hne hd in
theorem readInt_minus_digits : readInt ('-' :: ds) = some (-(decimalValue ds : Int)) := by
  simp [readInt, dropWhile_isSpace_of_digits hne hd, List.takeWhile_eq_self_iff.mpr hd,
    List.dropWhile_eq_nil_iff.mpr hd, hne]

include hne hd in
/-- A non-empty string of decimal digits is read as the number it denotes. -/
theorem int_of_digits : int ⟨ds⟩ = .ok (.int (decimalValue ds)) := by
  simp only [int, dropWhile_isSpace_of_digits hne hd, readInt_digits hne hd]

include hne hd in
/-- So is one with a minus sign before its digits, as a negative number. -/
theorem int_minus_digits : int ⟨'-' :: ds⟩ = .ok (.int (-(decimalValue ds : Int))) := by
  have hminus : ('-' :: ds).dropWhile isSpace = '-' :: ds := by simp [isSpace]
  simp only [int, hminus, readInt_minus_digits hne hd]

end Digits

example : int "042" = .ok (.int 42) := rfl

/-! ### `int()` reads back `str()` -/

theorem digitChar_spec : ∀ m < 10, (Nat.digitChar m).isDigit ∧ (Nat.digitChar m).toNat - 48 = m := by
  decide

theorem decimalValue_append_digit (ds : List Char) (d : Char) :
  decimalValue (ds ++ [d]) = 10 * decimalValue ds + (d.toNat - 48)
  := by
  simp [decimalValue, List.foldl_append]

/-- With enough fuel, `Nat.toDigitsCore` puts the decimal digits of `n` before `ds`. -/
theorem toDigitsCore_ten {fuel n : Nat} (h : n < fuel) (ds : List Char) :
  ∃ L, Nat.toDigitsCore 10 fuel n ds = L ++ ds ∧ L ≠ [] ∧ (∀ c ∈ L, c.isDigit)
    ∧ decimalValue L = n
  := by
  induction fuel generalizing n ds with
  | zero => omega
  | succ fuel ih =>
    obtain ⟨hdig, hval⟩ := digitChar_spec (n % 10) (Nat.mod_lt n (by decide))
    by_cases h0 : n / 10 = 0
    · refine ⟨[Nat.digitChar (n % 10)], by simp [Nat.toDigitsCore, h0], by simp,
        by simpa using hdig, ?_⟩
      simp [decimalValue, hval]
      omega
    · obtain ⟨L, hL, -, hd, hv⟩ := ih (n := n / 10) (by omega) (Nat.digitChar (n % 10) :: ds)
      refine ⟨L ++ [Nat.digitChar (n % 10)], by simp [Nat.toDigitsCore, h0, hL], by simp, ?_, ?_⟩
      · simpa [or_imp, forall_and] using ⟨hd, hdig⟩
      · rw [decimalValue_append_digit, hv, hval]
        omega

/-- `Nat.toDigits 10 n`, the digits `str` writes for `n`, are decimal digits denoting `n`. -/
theorem toDigits_ten (n : Nat) :
  Nat.toDigits 10 n ≠ [] ∧ (∀ c ∈ Nat.toDigits 10 n, c.isDigit)
    ∧ decimalValue (Nat.toDigits 10 n) = n
  := by
  obtain ⟨L, hL, h⟩ := toDigitsCore_ten (Nat.lt_succ_self n) []
  rw [Nat.toDigits, hL, List.append_nil]
  exact h

/-- `int(str(n))` is `n`: `str` writes an integer as its decimal digits, after a minus
sign when it is negative. -/
theorem int_toString (n : Int) : int (toString n) = .ok (.int n) := by
  cases n with
  | ofNat m =>
    obtain ⟨hne, hd, hv⟩ := toDigits_ten m
    show int ⟨Nat.toDigits 10 m⟩ = _
    rw [int_of_digits hne hd, hv]
    rfl
  | negSucc m =>
    obtain ⟨hne, hd, hv⟩ := toDigits_ten (m + 1)
    show int ⟨'-' :: Nat.toDigits 10 (m + 1)⟩ = _
    rw [int_minus_digits hne hd, hv]
    rfl


end Str

end St2
