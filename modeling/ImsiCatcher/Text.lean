import Mathlib.Data.List.Basic
import Mathlib.Data.List.GetD
import Mathlib.Data.List.Infix

/-!
# Text as lists of characters

Substring search, the lines of a stream, printed numbers and the string methods that
read them back. A line keeps its line break, as `readline` returns it; what follows the
last line break is a line of its own when it is not empty.
-/

abbrev Text := List Char

namespace Text

/-! ### Substrings -/

/-- `sub in s`. -/
def contains (sub : Text) : Text → Bool
  | [] => sub.isPrefixOf []
  | c :: s => sub.isPrefixOf (c :: s) || contains sub s

theorem contains_iff (sub s : Text) : contains sub s = true ↔ sub <:+: s := by
  induction s with
  | nil => simp [contains]
  | cons c s ih =>
    rw [contains, Bool.or_eq_true, ih, List.isPrefixOf_iff_prefix, List.infix_cons_iff]

theorem contains_append_left {sub a : Text} (h : contains sub a = true) (b : Text) :
    contains sub (a ++ b) = true :=
  (contains_iff _ _).2 (((contains_iff _ _).1 h).trans (List.infix_append' [] a b))

theorem contains_append_right {sub b : Text} (a : Text) (h : contains sub b = true) :
    contains sub (a ++ b) = true :=
  (contains_iff _ _).2 (((contains_iff _ _).1 h).trans ⟨a, [], by simp⟩)

theorem not_contains_of_infix {sub s t : Text} (h : t <:+: s) (hs : contains sub s = false) :
    contains sub t = false := by
  rw [Bool.eq_false_iff] at hs ⊢
  exact fun ht => hs ((contains_iff _ _).2 (((contains_iff _ _).1 ht).trans h))

theorem isPrefixOf_append_cons_of_notMem {sub : Text} {c : Char} (hc : c ∉ sub) (a s : Text) :
    sub.isPrefixOf (a ++ c :: s) = sub.isPrefixOf a := by
  induction sub generalizing a with
  | nil => simp
  | cons d sub ih =>
    simp only [List.mem_cons, not_or] at hc
    cases a with
    | nil =>
      have hd : (d == c) = false := by simpa using Ne.symm hc.1
      simp only [List.nil_append, List.isPrefixOf, hd, Bool.false_and]
    | cons x a => simp only [List.cons_append, List.isPrefixOf_cons_cons, ih hc.2]

/-- A character that is not in `sub` cuts the search in two. -/
theorem contains_append_cons_of_notMem {sub : Text} {c : Char} (hc : c ∉ sub) (hne : sub ≠ [])
    (a s : Text) : contains sub (a ++ c :: s) = (contains sub a || contains sub s) := by
  have hnil : sub.isPrefixOf [] = false := by cases sub <;> simp_all
  induction a with
  | nil =>
    have h := isPrefixOf_append_cons_of_notMem hc [] s
    rw [List.nil_append] at h
    rw [List.nil_append, contains, contains, h, hnil]
  | cons x a ih =>
    have h := isPrefixOf_append_cons_of_notMem hc (x :: a) s
    rw [List.cons_append] at h
    rw [List.cons_append, contains, contains, h, ih, Bool.or_assoc]

def behind (sub : Text) : Text → Text
  | [] => []
  | c :: s => if sub.isPrefixOf (c :: s) then (c :: s).drop sub.length else behind sub s

theorem behind_append {sub front : Text} (hne : sub ≠ [])
    (hfront : contains sub (front ++ sub.dropLast) = false) (s : Text) :
    behind sub (front ++ (sub ++ s)) = s := by
  induction front with
  | nil =>
    obtain ⟨c, w, rfl⟩ := List.exists_cons_of_ne_nil hne
    have hfound : (c :: w).isPrefixOf (c :: (w ++ s)) = true :=
      List.isPrefixOf_iff_prefix.2 (List.prefix_append (c :: w) s)
    rw [List.nil_append, List.cons_append, behind, if_pos hfound, ← List.cons_append]
    exact List.drop_left
  | cons x front ih =>
    rw [List.cons_append, contains, Bool.or_eq_false_iff] at hfront
    have hroom : sub.length ≤ (x :: (front ++ sub.dropLast)).length := by
      rw [List.length_cons, List.length_append, List.length_dropLast]
      omega
    have hnot : sub.isPrefixOf (x :: (front ++ (sub ++ s))) = false := by
      rw [Bool.eq_false_iff]
      intro hfound
      have hother : x :: (front ++ sub.dropLast) <+: x :: (front ++ (sub ++ s)) := by
        refine (List.prefix_cons_inj x).2 ((List.prefix_append_right_inj front).2 ?_)
        exact (List.dropLast_prefix sub).trans (List.prefix_append sub s)
      have hinside := List.prefix_of_prefix_length_le (List.isPrefixOf_iff_prefix.1 hfound)
        hother hroom
      rw [← List.isPrefixOf_iff_prefix, hfront.1] at hinside
      exact Bool.false_ne_true hinside
    rw [List.cons_append, behind, hnot, if_neg Bool.false_ne_true]
    exact ih hfront.2

/-- A character that is not in `sub` ends a front in which `sub` is not found. -/
theorem behind_append_cons_of_notMem {sub : Text} {c : Char} (hc : c ∉ sub) {front : Text}
    (hfront : contains sub front = false) (s : Text) :
    behind sub (front ++ c :: s) = behind sub s := by
  induction front with
  | nil =>
    have h := isPrefixOf_append_cons_of_notMem hc [] s
    rw [contains] at hfront
    rw [hfront, List.nil_append] at h
    rw [List.nil_append, behind, h, if_neg Bool.false_ne_true]
  | cons x front ih =>
    have h := isPrefixOf_append_cons_of_notMem hc (x :: front) s
    rw [contains, Bool.or_eq_false_iff] at hfront
    rw [hfront.1, List.cons_append] at h
    rw [List.cons_append, behind, h, if_neg Bool.false_ne_true]
    exact ih hfront.2

/-! ### Lines -/

def lines : Text → List Text
  | [] => []
  | c :: s =>
    if c = '\n' then [c] :: lines s
    else match lines s with
      | [] => [[c]]
      | l :: ls => (c :: l) :: ls

theorem lines_append_newline {x : Text} (hx : '\n' ∉ x) (y : Text) :
    lines (x ++ '\n' :: y) = (x ++ ['\n']) :: lines y := by
  induction x with
  | nil => simp [lines]
  | cons c x ih =>
    simp only [List.mem_cons, not_or] at hx
    rw [List.cons_append, lines, if_neg (Ne.symm hx.1), ih hx.2]
    rfl

def IsLine (l : Text) : Prop := ∃ x, '\n' ∉ x ∧ l = x ++ ['\n']

/-- Lines at the head of a text are read line by line. -/
theorem lines_flatten_append {ls : List Text} (h : ∀ l ∈ ls, IsLine l) (t : Text) :
    lines (ls.flatten ++ t) = ls ++ lines t := by
  induction ls with
  | nil => rfl
  | cons l ls ih =>
    obtain ⟨x, hx, rfl⟩ := h l List.mem_cons_self
    have hlines := lines_append_newline hx (ls.flatten ++ t)
    rw [ih fun l hl => h l (List.mem_cons_of_mem _ hl)] at hlines
    rw [List.flatten_cons, List.append_assoc, List.append_assoc]
    exact hlines

/-- A text that is made of lines is read back line by line. -/
theorem lines_flatten {ls : List Text} (h : ∀ l ∈ ls, IsLine l) : lines ls.flatten = ls := by
  have hlines := lines_flatten_append h []
  rwa [List.append_nil, lines, List.append_nil] at hlines

theorem lines_of_notMem {x : Text} (hx : '\n' ∉ x) (hne : x ≠ []) : lines x = [x] := by
  induction x with
  | nil => exact absurd rfl hne
  | cons c x ih =>
    simp only [List.mem_cons, not_or] at hx
    rw [lines, if_neg (Ne.symm hx.1)]
    by_cases hnil : x = []
    · rw [hnil]
      rfl
    · rw [ih hx.2 hnil]

/-- A text that is cut off within its first part, or behind it. -/
theorem prefix_append {t a b : Text} (h : t <+: a ++ b) :
    t <+: a ∨ ∃ t', t = a ++ t' ∧ t' <+: b := by
  rcases List.prefix_or_prefix_of_prefix h (List.prefix_append a b) with ha | ⟨t', rfl⟩
  · exact Or.inl ha
  · exact Or.inr ⟨t', rfl, (List.prefix_append_right_inj a).1 h⟩

/-- A text that is cut off within its first line, or behind it. -/
theorem lines_cut_cons {l t u : Text} (hl : IsLine l) (ht : t <+: l ++ u) :
    (t <+: l ∧ lines t = if t = [] then [] else [t]) ∨
      ∃ t', t = l ++ t' ∧ t' <+: u ∧ lines t = l :: lines t' := by
  obtain ⟨x, hx, rfl⟩ := hl
  rcases prefix_append ht with h | ⟨t', rfl, ht'⟩
  · by_cases hfull : t = x ++ ['\n']
    · refine Or.inr ⟨[], by rw [hfull, List.append_nil], List.nil_prefix, ?_⟩
      rw [hfull]
      exact lines_append_newline hx []
    · refine Or.inl ⟨h, ?_⟩
      rw [List.prefix_concat_iff] at h
      have hxt : '\n' ∉ t := fun hmem => hx ((h.resolve_left hfull).subset hmem)
      by_cases hnil : t = []
      · rw [if_pos hnil, hnil]
        rfl
      · rw [if_neg hnil, lines_of_notMem hxt hnil]
  · refine Or.inr ⟨t', rfl, ht', ?_⟩
    rw [List.append_assoc]
    exact lines_append_newline hx t'

/-- Each line of a text that is cut off is a line of the text, or the beginning of one. -/
theorem getD_lines_cut {ls : List Text} (h : ∀ l ∈ ls, IsLine l) {t : Text}
    (ht : t <+: ls.flatten) (i : ℕ) : (lines t).getD i [] <+: ls.getD i [] := by
  induction ls generalizing t i with
  | nil =>
    rw [List.prefix_nil.1 ht]
    exact List.prefix_rfl
  | cons l ls ih =>
    rcases lines_cut_cons (h l List.mem_cons_self) ht with ⟨hpart, hlines⟩ | ⟨t', rfl, ht', hlines⟩
    · rw [hlines]
      by_cases hnil : t = []
      · rw [if_pos hnil]
        exact List.nil_prefix
      · rw [if_neg hnil]
        cases i with
        | zero => exact hpart
        | succ i => exact List.nil_prefix
    · rw [hlines]
      cases i with
      | zero => exact List.prefix_rfl
      | succ i => exact ih (fun l hl => h l (List.mem_cons_of_mem _ hl)) ht' i

theorem exists_of_mem_drop_lines_cut {ls : List Text} (h : ∀ l ∈ ls, IsLine l) {t : Text}
    (ht : t <+: ls.flatten) {j : ℕ} {x : Text} (hx : x ∈ (lines t).drop j) :
    ∃ i, j ≤ i ∧ x <+: ls.getD i [] := by
  obtain ⟨i, hi, rfl⟩ := List.mem_iff_getElem.1 hx
  rw [List.getElem_drop]
  refine ⟨j + i, by omega, ?_⟩
  have hpre := getD_lines_cut h ht (j + i)
  rw [List.length_drop] at hi
  rwa [List.getD_eq_getElem _ _ (by omega)] at hpre

/-! ### Numbers -/

/-- `%d` of a natural number, and `%u`. -/
def decimal (n : ℕ) : Text := Nat.toDigits 10 n

/-- `%d`. -/
def decimalInt : ℤ → Text
  | .ofNat n => decimal n
  | .negSucc n => '-' :: decimal (n + 1)

/-- `%x`. -/
def hex (n : ℕ) : Text := Nat.toDigits 16 n

/-- `%02x`, and with another width `%03x` and `%4.4x`. -/
def hexPadded (width n : ℕ) : Text := List.replicate (width - (hex n).length) '0' ++ hex n

theorem decimal_ne_nil (n : ℕ) : decimal n ≠ [] := Nat.toDigits_ne_nil

theorem decimal_injective : Function.Injective decimal := by
  intro m n h
  calc
    m = Nat.ofDigitChars 10 (decimal m) 0 := Nat.ofDigitChars_ten_toDigits.symm
    _ = Nat.ofDigitChars 10 (decimal n) 0 := by rw [h]
    _ = n := Nat.ofDigitChars_ten_toDigits

/-- A number has one digit exactly if it is less than ten. -/
theorem tail_decimal {n : ℕ} {d : Char} {ds : Text} (h : decimal n = d :: ds) :
    ds = [] ↔ n < 10 := by
  unfold decimal at h
  rw [Nat.toDigits_eq_if (by decide)] at h
  by_cases hn : n < 10
  · rw [if_pos hn] at h
    have hds : ds = [] := by simpa using (List.cons.inj h).2.symm
    exact iff_of_true hds hn
  · rw [if_neg hn] at h
    refine iff_of_false ?_ hn
    rintro rfl
    have hlen := congrArg List.length h
    have hpos : 0 < (Nat.toDigits 10 (n / 10)).length :=
      List.length_pos_of_ne_nil Nat.toDigits_ne_nil
    rw [List.length_append, List.length_singleton, List.length_singleton] at hlen
    omega

theorem isDigit_of_mem_decimal {n : ℕ} {c : Char} (h : c ∈ decimal n) : c.isDigit = true :=
  Nat.isDigit_of_mem_toDigits (by decide) (by decide) h

theorem exists_digitChar_of_mem_hex {n : ℕ} {c : Char} (h : c ∈ hex n) :
    ∃ d < 16, c = d.digitChar := by
  unfold hex at h
  induction n using Nat.strongRecOn with
  | ind n ih =>
    rw [Nat.toDigits_eq_if (by decide)] at h
    by_cases hn : n < 16
    · rw [if_pos hn, List.mem_singleton] at h
      exact ⟨n, hn, h⟩
    · rw [if_neg hn, List.mem_append, List.mem_singleton] at h
      rcases h with h | h
      · exact ih (n / 16) (by omega) h
      · exact ⟨n % 16, by omega, h⟩

theorem newline_notMem_hex (n : ℕ) : '\n' ∉ hex n := by
  intro h
  obtain ⟨d, hd, heq⟩ := exists_digitChar_of_mem_hex h
  revert heq
  exact (by decide : ∀ d < 16, '\n' ≠ d.digitChar) d hd

theorem newline_notMem_hexPadded (width n : ℕ) : '\n' ∉ hexPadded width n := by
  intro h
  rcases List.mem_append.1 h with h | h
  · exact absurd (List.eq_of_mem_replicate h) (by decide)
  · exact newline_notMem_hex n h

theorem newline_notMem_decimal (n : ℕ) : '\n' ∉ decimal n :=
  fun h => absurd (isDigit_of_mem_decimal h) (by decide)

theorem eq_minus_or_isDigit {z : ℤ} {c : Char} (h : c ∈ decimalInt z) :
    c = '-' ∨ c.isDigit = true := by
  cases z with
  | ofNat n => exact Or.inr (isDigit_of_mem_decimal h)
  | negSucc n =>
    rcases List.mem_cons.1 h with rfl | h
    · exact Or.inl rfl
    · exact Or.inr (isDigit_of_mem_decimal h)

theorem newline_notMem_decimalInt (z : ℤ) : '\n' ∉ decimalInt z := by
  intro h
  rcases eq_minus_or_isDigit h with h | h <;> exact absurd h (by decide)

/-! ### String methods -/

/-- The characters that `\s` and `strip` take for white space. -/
def isSpace (c : Char) : Bool :=
  c = ' ' || c = '\t' || c = '\n' || c = '\r' || c = '\x0b' || c = '\x0c'

/-- The characters of `\w`. -/
def isWord (c : Char) : Bool := c.isAlphanum || c = '_'

/-- The characters of `.`. -/
def isDot (c : Char) : Bool := c ≠ '\n'

def strip (s : Text) : Text := ((s.dropWhile isSpace).reverse.dropWhile isSpace).reverse

def split (sep : Char) (s : Text) : List Text := s.splitOn sep

/-- The digits that `int` takes, once white space and sign are gone. -/
def digitsValue (s : Text) : Option ℕ :=
  if s ≠ [] ∧ s.all Char.isDigit then some (Nat.ofDigitChars 10 s 0) else none

/-- `int(s)`; nothing where the call raises a `ValueError`. -/
def toInt (s : Text) : Option ℤ :=
  match strip s with
  | '-' :: ds => (digitsValue ds).map fun n => -(n : ℤ)
  | '+' :: ds => (digitsValue ds).map fun n => (n : ℤ)
  | ds => (digitsValue ds).map fun n => (n : ℤ)

theorem isSpace_eq_false_of_isDigit {c : Char} (h : c.isDigit = true) : isSpace c = false := by
  rw [Bool.eq_false_iff]
  intro hs
  simp only [isSpace, Bool.or_eq_true, decide_eq_true_eq] at hs
  rcases hs with ((((rfl | rfl) | rfl) | rfl) | rfl) | rfl <;> exact absurd h (by decide)

theorem dropWhile_isSpace {v s : Text} (hv : ∀ c ∈ v, isSpace c = true)
    (hs : ∀ c ∈ s.head?, isSpace c = false) : (v ++ s).dropWhile isSpace = s := by
  rw [List.dropWhile_append_of_pos hv]
  cases s with
  | nil => rfl
  | cons c s => exact List.dropWhile_cons_of_neg (by simp [hs c rfl])

/-- White space around a text is stripped off. -/
theorem strip_append {v s w : Text} (hv : ∀ c ∈ v, isSpace c = true)
    (hw : ∀ c ∈ w, isSpace c = true) (hne : s ≠ [])
    (hhead : ∀ c ∈ s.head?, isSpace c = false) (hlast : ∀ c ∈ s.getLast?, isSpace c = false) :
    strip (v ++ s ++ w) = s := by
  have hfront : (v ++ s ++ w).dropWhile isSpace = s ++ w := by
    rw [List.append_assoc]
    apply dropWhile_isSpace hv
    rw [List.head?_append_of_ne_nil _ hne]
    exact hhead
  have hback : (w.reverse ++ s.reverse).dropWhile isSpace = s.reverse := by
    apply dropWhile_isSpace
    · intro c hc
      exact hw c (List.mem_reverse.1 hc)
    · rw [List.head?_reverse]
      exact hlast
  unfold strip
  rw [hfront, List.reverse_append, hback, List.reverse_reverse]

theorem strip_of_forall {s : Text} (hne : s ≠ []) (hs : ∀ c ∈ s, isSpace c = false) :
    strip s = s := by
  have h := strip_append (v := []) (s := s) (w := []) (by simp) (by simp) hne
    (fun c hc => hs c (List.mem_of_mem_head? hc)) (fun c hc => hs c (List.mem_of_getLast? hc))
  simpa using h

/-- Words with blanks between them begin and end in the characters of a word. -/
theorem ends_intercalate {ws : List Text} (hne : ws ≠ [])
    (hws : ∀ w ∈ ws, w ≠ [] ∧ ∀ c ∈ w, isSpace c = false) :
    [' '].intercalate ws ≠ [] ∧ (∀ c ∈ ([' '].intercalate ws).head?, isSpace c = false) ∧
      ∀ c ∈ ([' '].intercalate ws).getLast?, isSpace c = false := by
  induction ws with
  | nil => exact absurd rfl hne
  | cons w ws ih =>
    obtain ⟨hw, hchars⟩ := hws w List.mem_cons_self
    have hfirst : ∀ c ∈ w.head?, isSpace c = false := fun c hc =>
      hchars c (List.mem_of_mem_head? hc)
    cases ws with
    | nil =>
      rw [List.intercalate_singleton]
      exact ⟨hw, hfirst, fun c hc => hchars c (List.mem_of_getLast? hc)⟩
    | cons w' ws =>
      obtain ⟨hnonempty, _, hlast⟩ := ih (by simp) fun v hv => hws v (List.mem_cons_of_mem _ hv)
      rw [List.intercalate_cons_cons, List.append_assoc]
      refine ⟨List.append_ne_nil_of_left_ne_nil hw _, ?_, ?_⟩
      · rw [List.head?_append_of_ne_nil _ hw]
        exact hfirst
      · rw [← List.append_assoc, List.getLast?_append_of_ne_nil _ hnonempty]
        exact hlast

/-- Words with blanks around and between them are found again by stripping and splitting. -/
theorem split_strip_intercalate {ws : List Text} (hne : ws ≠ [])
    (hws : ∀ w ∈ ws, w ≠ [] ∧ ∀ c ∈ w, isSpace c = false) :
    split ' ' (strip ([' '] ++ [' '].intercalate ws ++ [' '])) = ws := by
  obtain ⟨hnonempty, hhead, hlast⟩ := ends_intercalate hne hws
  have hblank : ∀ c ∈ [' '], isSpace c = true := by
    intro c hc
    rw [List.mem_singleton.1 hc]
    rfl
  rw [strip_append hblank hblank hnonempty hhead hlast]
  apply List.splitOn_intercalate ' ' _ hne
  intro w hw hblank
  exact absurd ((hws w hw).2 ' ' hblank) (by decide)

theorem digitsValue_of_digits {s : Text} (hne : s ≠ []) (hs : ∀ c ∈ s, c.isDigit = true) :
    digitsValue s = some (Nat.ofDigitChars 10 s 0) := if_pos ⟨hne, List.all_eq_true.2 hs⟩

theorem toInt_of_digits {s : Text} (hne : s ≠ []) (hs : ∀ c ∈ s, c.isDigit = true) :
    toInt s = some ((Nat.ofDigitChars 10 s 0 : ℕ) : ℤ) := by
  have hstrip : strip s = s := strip_of_forall hne
    fun c hc => isSpace_eq_false_of_isDigit (hs c hc)
  have hvalue := digitsValue_of_digits hne hs
  unfold toInt
  rw [hstrip]
  cases s with
  | nil => exact absurd rfl hne
  | cons d ds =>
    split
    · exact absurd (hs _ List.mem_cons_self) (by simp_all)
    · exact absurd (hs _ List.mem_cons_self) (by simp_all)
    · rw [hvalue]
      rfl

theorem toInt_of_minus {s : Text} (hne : s ≠ []) (hs : ∀ c ∈ s, c.isDigit = true) :
    toInt ('-' :: s) = some (-((Nat.ofDigitChars 10 s 0 : ℕ) : ℤ)) := by
  have hstrip : strip ('-' :: s) = '-' :: s := by
    apply strip_of_forall (by simp)
    intro c hc
    rcases List.mem_cons.1 hc with rfl | hc
    · rfl
    · exact isSpace_eq_false_of_isDigit (hs c hc)
  unfold toInt
  rw [hstrip]
  simp only [digitsValue_of_digits hne hs]
  rfl

theorem toInt_decimal (n : ℕ) : toInt (decimal n) = some (n : ℤ) := by
  rw [toInt_of_digits (decimal_ne_nil n) fun c hc => isDigit_of_mem_decimal hc]
  exact congrArg (fun n : ℕ => some (n : ℤ)) Nat.ofDigitChars_ten_toDigits

theorem toInt_decimalInt (z : ℤ) : toInt (decimalInt z) = some z := by
  cases z with
  | ofNat n => exact toInt_decimal n
  | negSucc n =>
    unfold decimalInt
    rw [toInt_of_minus (decimal_ne_nil _) fun c hc => isDigit_of_mem_decimal hc]
    exact congrArg (fun n : ℕ => some (-(n : ℤ))) Nat.ofDigitChars_ten_toDigits

theorem decimalInt_injective : Function.Injective decimalInt := by
  intro z z' h
  exact Option.some.inj ((toInt_decimalInt z).symm.trans ((congrArg toInt h).trans
    (toInt_decimalInt z')))

theorem decimalInt_ne_nil (z : ℤ) : decimalInt z ≠ [] := by
  intro h
  have hvalue := toInt_decimalInt z
  rw [h] at hvalue
  exact absurd hvalue.symm (Option.some_ne_none z)

/-- Numbers with blanks between them are found again by splitting. -/
theorem splitOn_intercalate_decimalInt {zs : List ℤ} (hne : zs ≠ []) :
    ([' '].intercalate (zs.map decimalInt)).splitOn ' ' = zs.map decimalInt := by
  apply List.splitOn_intercalate ' ' _ (by simpa using hne)
  intro w hw hblank
  obtain ⟨z, -, rfl⟩ := List.mem_map.1 hw
  rcases eq_minus_or_isDigit hblank with h | h <;> exact absurd h (by decide)

theorem intercalate_decimalInt_ne_nil {zs : List ℤ} (hne : zs ≠ []) :
    [' '].intercalate (zs.map decimalInt) ≠ [] := by
  intro h
  have hsplit := splitOn_intercalate_decimalInt hne
  rw [h, List.splitOn_nil] at hsplit
  have hmem : [] ∈ zs.map decimalInt := hsplit ▸ List.mem_singleton_self []
  obtain ⟨z, -, hz⟩ := List.mem_map.1 hmem
  exact decimalInt_ne_nil z hz

theorem intercalate_decimalInt_injective :
    Function.Injective fun zs : List ℤ => [' '].intercalate (zs.map decimalInt) := by
  intro zs zs' h
  dsimp only at h
  by_cases hne : zs = []
  · subst hne
    by_contra hne'
    exact intercalate_decimalInt_ne_nil (Ne.symm hne') h.symm
  by_cases hne' : zs' = []
  · subst hne'
    exact absurd h (intercalate_decimalInt_ne_nil hne)
  · have hsplit := congrArg (List.splitOn ' ') h
    rw [splitOn_intercalate_decimalInt hne, splitOn_intercalate_decimalInt hne'] at hsplit
    exact List.map_injective_iff.2 decimalInt_injective hsplit

end Text
