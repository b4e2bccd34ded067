import MapReduce.Json.Read
import MapReduce.Json.Write
import Mathlib

/-! # Reading back what is written

The compact text of a value reads back as the value itself, provided the value is one the reader
can give: its numbers are integers kept exact, the keys of each object increase strictly (as
`Json.mkObj` leaves them), and it is not nested deeper than the reader allows. Floating-point
numbers are left out: their text is the shortest decimal that reads back under correct rounding,
which the reader does not promise. The reader that keeps members as written gives back every
such object, its keys in any order, since it neither sorts nor merges them: `Legible` states both
conditions, with the order of keys asked only of the sorting reader. -/

namespace MapReduce.Json

/-! ## The text a value is written as -/

/-- The characters `escapeChar` appends for one character of a string. -/
def escapeChars (c : Char) : List Char :=
  if c = '"' then ['\\', '"']
  else if c = '\\' then ['\\', '\\']
  else if c.toNat < 32 then
    if c = '\n' then ['\\', 'n']
    else if c = '\t' then ['\\', 't']
    else if c = '\r' then ['\\', 'r']
    else if c.toNat = 8 then ['\\', 'b']
    else if c.toNat = 12 then ['\\', 'f']
    else ['\\', 'u', '0', '0', hexDigit (c.toNat / 16), hexDigit (c.toNat % 16)]
  else [c]

theorem escapeChar_toList (acc : String) (c : Char) :
    (escapeChar acc c).toList = acc.toList ++ escapeChars c := by
  unfold escapeChar escapeChars
  split_ifs <;> simp [String.toList_append, String.toList_push]

theorem writeStr_toList (acc s : String) :
    (writeStr acc s).toList = acc.toList ++ '"' :: s.toList.flatMap escapeChars ++ ['"'] := by
  have h : ∀ (cs : List Char) (a : String),
      (cs.foldl escapeChar a).toList = a.toList ++ cs.flatMap escapeChars := by
    intro cs
    induction cs with
    | nil => simp
    | cons c cs ih => intro a; simp [ih, escapeChar_toList]
  simp [writeStr, String.toList_push, h]

/-- The text of the elements of an array after the first, each after a comma. -/
def sepElems (xs : List Json) : List Char := xs.flatMap fun x => ',' :: (write x).toList

/-- The text of the elements of an array, separated by commas. -/
def elemsText : List Json → List Char
  | [] => []
  | x :: xs => (write x).toList ++ sepElems xs

/-- The text of a member of an object: its quoted key, a colon and its value. -/
def memberText (p : String × Json) : List Char :=
  (writeStr "" p.1).toList ++ ':' :: (write p.2).toList

/-- The text of the members of an object after the first, each after a comma. -/
def sepMembers (kvs : List (String × Json)) : List Char := kvs.flatMap fun p => ',' :: memberText p

/-- The text of the members of an object, separated by commas. -/
def membersText : List (String × Json) → List Char
  | [] => []
  | p :: kvs => memberText p ++ sepMembers kvs

/-- Writing appends to the accumulator the text of the value alone, and likewise for the elements
of an array and the members of an object. The motives ignore the accumulator of the induction, so
that each hypothesis holds for every accumulator. -/
private theorem writeTo_toList_all :
    (∀ (_ : String) (v : Json) (a : String), (writeTo a v).toList = a.toList ++ (write v).toList) ∧
    (∀ (_ : String) (first : Bool) (kvs : List (String × Json)) (a : String),
      (writeMembers a first kvs).toList =
        a.toList ++ if first then membersText kvs else sepMembers kvs) ∧
    (∀ (_ : String) (first : Bool) (xs : List Json) (a : String),
      (writeElems a first xs).toList = a.toList ++ if first then elemsText xs else sepElems xs) := by
  apply writeTo.mutual_induct
  case case1 => intro _ a; simp [writeTo, write, String.toList_append]
  case case2 => intro _ a; simp [writeTo, write, String.toList_append]
  case case3 => intro _ a; simp [writeTo, write, String.toList_append]
  case case4 => intro _ n a; simp [writeTo, write, String.toList_append]
  case case5 => intro _ s a; simp [writeTo, write, writeStr_toList]
  case case6 =>
    intro _ xs ih a
    simp [writeTo, write, String.toList_push, ih]
  case case7 =>
    intro _ kvs ih a
    simp [writeTo, write, String.toList_push, ih]
  case case8 => intro _ first a; cases first <;> simp [writeElems, elemsText, sepElems]
  case case9 =>
    intro _ first x xs ihx ihxs a
    cases first <;> simp [writeElems, elemsText, sepElems, ihx, ihxs, String.toList_push]
  case case10 => intro _ first a; cases first <;> simp [writeMembers, membersText, sepMembers]
  case case11 =>
    intro _ first k v rest ihv ihrest a
    cases first <;>
      simp [writeMembers, membersText, sepMembers, memberText, ihv, ihrest, writeStr_toList,
        String.toList_push]

theorem write_arr_toList (xs : List Json) :
    (write (.arr xs)).toList = '[' :: elemsText xs ++ [']'] := by
  simp [write, writeTo, String.toList_push, writeTo_toList_all.2.2 "" true xs]

theorem write_obj_toList (kvs : List (String × Json)) :
    (write (.obj kvs)).toList = '{' :: membersText kvs ++ ['}'] := by
  simp [write, writeTo, String.toList_push, writeTo_toList_all.2.1 "" true kvs]

theorem write_str_toList (s : String) :
    (write (.str s)).toList = '"' :: s.toList.flatMap escapeChars ++ ['"'] := by
  simp [write, writeTo, writeStr_toList]

theorem write_int_toList (i : Int) : (write (.num (.int i))).toList = i.repr.toList := by
  simp [write, writeTo, Number.render]

/-! ## Values that read back -/

/-- The values that a reader allowing `depth` levels of nesting gives back from their compact
text: each number an integer kept exact, each object's keys strictly increasing, and no container
nested deeper than the reader allows. -/
inductive Readable : Nat → Json → Prop
  | null (depth : Nat) : Readable depth .null
  | bool (depth : Nat) (b : Bool) : Readable depth (.bool b)
  | int (depth : Nat) (i : Int) (lo : Number.intMin ≤ i) (hi : i < Number.intBound) :
      Readable depth (.num (.int i))
  | str (depth : Nat) (s : String) : Readable depth (.str s)
  | arr (depth : Nat) (xs : List Json) (room : 2 ≤ depth) (elems : ∀ x ∈ xs, Readable (depth - 1) x) :
      Readable depth (.arr xs)
  | obj (depth : Nat) (kvs : List (String × Json)) (room : 2 ≤ depth)
      (sorted : kvs.Pairwise fun a b => a.1 < b.1) (members : ∀ p ∈ kvs, Readable (depth - 1) p.2) :
      Readable depth (.obj kvs)

/-- The values that a reader allowing `depth` levels of nesting gives back from their compact
text when it keeps the members of objects as written (`keep`) or sorts them: each number an
integer kept exact, no container nested deeper than the reader allows, and, for a reader that
sorts, each object's keys strictly increasing. -/
inductive Legible (keep : Bool) : Nat → Json → Prop
  | null (depth : Nat) : Legible keep depth .null
  | bool (depth : Nat) (b : Bool) : Legible keep depth (.bool b)
  | int (depth : Nat) (i : Int) (lo : Number.intMin ≤ i) (hi : i < Number.intBound) :
      Legible keep depth (.num (.int i))
  | str (depth : Nat) (s : String) : Legible keep depth (.str s)
  | arr (depth : Nat) (xs : List Json) (room : 2 ≤ depth)
      (elems : ∀ x ∈ xs, Legible keep (depth - 1) x) : Legible keep depth (.arr xs)
  | obj (depth : Nat) (kvs : List (String × Json)) (room : 2 ≤ depth)
      (sorted : keep = false → kvs.Pairwise fun a b => a.1 < b.1)
      (members : ∀ p ∈ kvs, Legible keep (depth - 1) p.2) : Legible keep depth (.obj kvs)

/-- A value the sorting reader gives back is given back by both readers. -/
theorem Readable.legible {depth : Nat} {v : Json} (hv : Readable depth v) (keep : Bool) :
    Legible keep depth v := by
  induction hv with
  | null => exact .null _
  | bool _ b => exact .bool _ b
  | int _ i lo hi => exact .int _ i lo hi
  | str _ s => exact .str _ s
  | arr d xs room _ ih => exact .arr d xs room ih
  | obj d kvs room sorted _ ih => exact .obj d kvs room (fun _ => sorted) ih

/-- A text that may follow a value inside a written text: the end, a comma, or a closing bracket
or brace. -/
def Follows : List Char → Prop
  | [] => True
  | c :: _ => c = ',' ∨ c = ']' ∨ c = '}'

/-- A text that starts with a character no blank, comma or closing bracket or brace: the start of
a written value. -/
def StartsValue (cs : List Char) : Prop :=
  ∃ c rest, cs = c :: rest ∧ c ≠ ' ' ∧ c ≠ '\n' ∧ c ≠ '\t' ∧ c ≠ '\r' ∧ c ≠ ']' ∧ c ≠ '}' ∧ c ≠ ','

theorem startsValue_cons {c : Char} (rest : List Char)
    (h : c ≠ ' ' ∧ c ≠ '\n' ∧ c ≠ '\t' ∧ c ≠ '\r' ∧ c ≠ ']' ∧ c ≠ '}' ∧ c ≠ ',') :
    StartsValue (c :: rest) :=
  ⟨c, rest, rfl, h⟩

theorem startsValue_of_isDigit {c : Char} (rest : List Char) (h : c.isDigit = true) :
    StartsValue (c :: rest) := by
  have h' := Char.isDigit_iff_toNat.mp h
  refine startsValue_cons rest ⟨?_, ?_, ?_, ?_, ?_, ?_, ?_⟩ <;> rintro rfl <;> simp at h'

theorem Legible.startsValue {keep : Bool} {depth : Nat} {v : Json} (hv : Legible keep depth v) :
    StartsValue (write v).toList := by
  cases hv with
  | null =>
    rw [show (write .null).toList = ['n', 'u', 'l', 'l'] by simp [write, writeTo]]
    exact startsValue_cons _ (by decide)
  | bool _ b =>
    cases b
    · rw [show (write (.bool false)).toList = ['f', 'a', 'l', 's', 'e'] by simp [write, writeTo]]
      exact startsValue_cons _ (by decide)
    · rw [show (write (.bool true)).toList = ['t', 'r', 'u', 'e'] by simp [write, writeTo]]
      exact startsValue_cons _ (by decide)
  | int _ i =>
    rw [write_int_toList]
    cases i with
    | ofNat m =>
      obtain ⟨d, ds, hds⟩ : ∃ d ds, Nat.toDigits 10 m = d :: ds :=
        List.exists_cons_of_ne_nil Nat.toDigits_ne_nil
      have hd : d.isDigit = true :=
        @Nat.isDigit_of_mem_toDigits 10 m d (by decide) (by decide) (by simp [hds])
      simpa [Int.repr, Nat.repr, hds] using startsValue_of_isDigit ds hd
    | negSucc m =>
      rw [show (Int.negSucc m).repr.toList = '-' :: Nat.toDigits 10 (m + 1) by
        simp [Int.repr, String.toList_append]]
      exact startsValue_cons _ (by decide)
  | str _ s =>
    rw [write_str_toList]
    exact startsValue_cons _ (by decide)
  | arr =>
    rw [write_arr_toList]
    exact startsValue_cons _ (by decide)
  | obj =>
    rw [write_obj_toList]
    exact startsValue_cons _ (by decide)

theorem Readable.startsValue {depth : Nat} {v : Json} (hv : Readable depth v) :
    StartsValue (write v).toList :=
  (hv.legible false).startsValue

end MapReduce.Json

namespace MapReduce.JsonRead

open Json

/-! ## Reading the pieces of a text -/

theorem hexVal?_hexDigit : ∀ k, k < 16 → hexVal? (hexDigit k) = some k := by decide

theorem unicodeEscape_control (c : Char) (h : c.toNat < 32) (rest : List Char) :
    unicodeEscape ('0' :: '0' :: hexDigit (c.toNat / 16) :: hexDigit (c.toNat % 16) :: rest) =
      .ok (c, rest) := by
  have h0 : hexVal? '0' = some 0 := by decide
  have h1 := hexVal?_hexDigit (c.toNat / 16) (by omega)
  have h2 := hexVal?_hexDigit (c.toNat % 16) (by omega)
  have hv : ((0 * 16 + 0) * 16 + c.toNat / 16) * 16 + c.toNat % 16 = c.toNat := by omega
  have hlo : ¬(56320 ≤ c.toNat ∧ c.toNat ≤ 57343) := by omega
  have hhi : c.toNat < 55296 ∨ c.toNat > 56319 := by omega
  simp only [unicodeEscape, hex4, h0, h1, h2, hv, bind, Except.bind, hlo, hhi, if_false, if_true,
    Char.ofNat_toNat]

/-- One escaped character is read back in one round of the string reader. -/
theorem stringBody_escapeChars (n : Nat) (acc : String) (c : Char) (rest : List Char) :
    stringBody (n + 1) acc (escapeChars c ++ rest) = stringBody n (acc.push c) rest := by
  unfold escapeChars
  split_ifs with h1 h2 h3 h4 h5 h6 h7 h8
  · subst h1; simp [stringBody]
  · subst h2; simp [stringBody]
  · subst h4; simp [stringBody]
  · subst h5; simp [stringBody]
  · subst h6; simp [stringBody]
  · have hc : c = Char.ofNat 8 := by rw [← h7, Char.ofNat_toNat]
    subst hc; simp [stringBody]
  · have hc : c = Char.ofNat 12 := by rw [← h8, Char.ofNat_toNat]
    subst hc; simp [stringBody]
  · simp [stringBody, unicodeEscape_control c h3]
  · simp [stringBody, h1, h2, h3]

/-- The escaped characters of a string, closed by a quote, read back as the string. -/
theorem stringBody_escaped (cs : List Char) (n : Nat) (acc : String) (rest : List Char)
    (hn : cs.length < n) :
    stringBody n acc (cs.flatMap escapeChars ++ '"' :: rest) = .ok (acc ++ String.ofList cs, rest) := by
  induction cs generalizing n acc with
  | nil =>
    obtain ⟨m, rfl⟩ : ∃ m, n = m + 1 := Nat.exists_eq_succ_of_ne_zero (by omega)
    simp [stringBody]
  | cons c cs ih =>
    obtain ⟨m, rfl⟩ : ∃ m, n = m + 1 := Nat.exists_eq_succ_of_ne_zero (by omega)
    rw [List.flatMap_cons, List.append_assoc, stringBody_escapeChars, ih m (acc.push c) (by simpa using hn)]
    congr 2
    simp [← String.toList_inj, String.toList_append, String.toList_push]

/-! ## Integers -/

theorem le_ofDigitChars (ds : List Char) (init : Nat) : init ≤ Nat.ofDigitChars 10 ds init := by
  rw [Nat.ofDigitChars_eq_ofDigitChars_zero]
  have : 1 ≤ 10 ^ ds.length := Nat.one_le_pow _ _ (by decide)
  have : init ≤ 10 ^ ds.length * init := Nat.le_mul_of_pos_left init this
  omega

/-- Reading digits while the significand fits 64 bits accumulates their decimal value. -/
theorem integerDigits_digits (neg : Bool) (ds : List Char) (init : Nat) (tail : List Char)
    (hd : ∀ c ∈ ds, c.isDigit = true) (hb : Nat.ofDigitChars 10 ds init ≤ u64Max) :
    integerDigits neg init (ds ++ tail) = integerDigits neg (Nat.ofDigitChars 10 ds init) tail := by
  induction ds generalizing init with
  | nil => simp
  | cons c ds ih =>
    have hc := hd c (by simp)
    rw [Nat.ofDigitChars_cons] at hb ⊢
    have hstep : init * 10 + digitVal c ≤ u64Max := by
      have := le_ofDigitChars ds (10 * init + (c.toNat - '0'.toNat))
      simp only [digitVal]
      simp at this hb
      omega
    have hnot : ¬ (init * 10 + digitVal c > u64Max) := by omega
    simp only [List.cons_append, integerDigits, hc, if_true, hnot, if_false]
    have heq : init * 10 + digitVal c = 10 * init + (c.toNat - '0'.toNat) := by
      simp [digitVal]; omega
    rw [heq]
    exact ih _ (fun x hx => hd x (by simp [hx])) hb

theorem digitChar_ne_zero : ∀ n, n < 10 → 0 < n → Nat.digitChar n ≠ '0' := by decide

theorem toDigits_head (n : Nat) (hn : 0 < n) :
    ∃ d ds, Nat.toDigits 10 n = d :: ds ∧ d ≠ '0' := by
  induction n using Nat.strongRecOn with
  | ind n ih =>
    by_cases h : n < 10
    · exact ⟨_, [], Nat.toDigits_of_lt_base h, digitChar_ne_zero n h hn⟩
    · obtain ⟨d, ds, hds, hd⟩ := ih (n / 10) (by omega) (by omega)
      refine ⟨d, ds ++ [Nat.digitChar (n % 10)], ?_, hd⟩
      rw [Nat.toDigits_of_base_le (by decide) (by omega), hds]
      rfl

/-- The decimal digits of a natural number that fits 64 bits read back as that number, up to the
first character that is no digit. -/
theorem readNumber_toDigits (neg : Bool) (n : Nat) (hn : n ≤ u64Max) (tail : List Char)
    (ht : ∀ c r, tail = c :: r → c.isDigit = false) :
    readNumber neg (Nat.toDigits 10 n ++ tail) = afterInteger neg n 0 false tail := by
  have hdig : ∀ c ∈ Nat.toDigits 10 n, c.isDigit = true :=
    fun c hc => Nat.isDigit_of_mem_toDigits (by decide) (by decide) hc
  have hend : integerDigits neg n tail = afterInteger neg n 0 false tail := by
    cases tail with
    | nil => simp [integerDigits]
    | cons c r => simp [integerDigits, ht c r rfl]
  rcases Nat.eq_zero_or_pos n with rfl | hpos
  · cases tail with
    | nil => simp [readNumber]
    | cons c r => simp [readNumber, ht c r rfl]
  · obtain ⟨d, ds, hds, hd⟩ := toDigits_head n hpos
    have hdd : d.isDigit = true := hdig d (by simp [hds])
    have hval : Nat.ofDigitChars 10 ds (digitVal d) = n := by
      have := Nat.ofDigitChars_ten_toDigits (n := n)
      rw [hds, Nat.ofDigitChars_cons] at this
      simpa [digitVal] using this
    rw [hds, List.cons_append]
    simp only [readNumber, hdd, if_true]
    rw [integerDigits_digits neg ds (digitVal d) tail (fun c hc => hdig c (by simp [hds, hc]))
      (by rw [hval]; exact hn), hval, hend]

theorem follows_not_digit {rest : List Char} (h : Follows rest) :
    ∀ c r, rest = c :: r → c.isDigit = false := by
  rintro c r rfl
  rcases h with rfl | rfl | rfl <;> decide

/-- After the digits of an integer, at the end of a value, the integer is kept exact when it fits:
a nonnegative one up to `2 ^ 64`, a negative one down to `-2 ^ 63`. -/
theorem afterInteger_follows (neg : Bool) (n : Nat) (rest : List Char) (h : Follows rest) :
    afterInteger neg n 0 false rest =
      if !neg then .ok (.num (.int n), rest)
      else if n ≠ 0 ∧ n ≤ 2 ^ 63 then .ok (.num (.int (-(n : Int))), rest)
      else fromParts true n 0 rest := by
  cases rest with
  | nil => simp [afterInteger]
  | cons c r =>
    rcases h with rfl | rfl | rfl <;> simp [afterInteger]

/-! ## Values -/

theorem readValue_digit {keep : Bool} {fuel depth : Nat} {c : Char} (cs : List Char)
    (hc : c.isDigit = true) :
    readValue keep (fuel + 1) depth (c :: cs) = readNumber false (c :: cs) := by
  have h' := Char.isDigit_iff_toNat.mp hc
  have hne : c ≠ ' ' ∧ c ≠ '\n' ∧ c ≠ '\t' ∧ c ≠ '\r' ∧ c ≠ 'n' ∧ c ≠ 't' ∧ c ≠ 'f' ∧ c ≠ '-' := by
    refine ⟨?_, ?_, ?_, ?_, ?_, ?_, ?_, ?_⟩ <;> rintro rfl <;> simp at h'
  obtain ⟨h1, h2, h3, h4, h5, h6, h7, h8⟩ := hne
  simp [readValue, skipBlank, h1, h2, h3, h4, h5, h6, h7, h8, hc]

theorem readValue_minus {keep : Bool} {fuel depth : Nat} (cs : List Char) :
    readValue keep (fuel + 1) depth ('-' :: cs) = readNumber true cs := by
  simp [readValue, skipBlank]

/-- The elements of an array, each read back by `hread`, read back as the array. -/
theorem readElems_elemsText {keep : Bool} {depth : Nat} (xs : List Json) (hne : xs ≠ [])
    (hstart : ∀ x ∈ xs, StartsValue (write x).toList)
    (hread : ∀ x ∈ xs, ∀ (fuel : Nat) (rest : List Char), (write x).toList.length < fuel →
      Follows rest → readValue keep fuel depth ((write x).toList ++ rest) = .ok (x, rest))
    (fuel : Nat) (acc : List Json) (rest : List Char) (hf : (elemsText xs).length + 1 < fuel) :
    readElems keep fuel depth acc (elemsText xs ++ ']' :: rest) =
      .ok (.arr (acc.reverse ++ xs), rest) := by
  induction xs generalizing fuel acc with
  | nil => exact absurd rfl hne
  | cons x xs ih =>
    obtain ⟨g, rfl⟩ : ∃ g, fuel = g + 1 := Nat.exists_eq_succ_of_ne_zero (by omega)
    cases xs with
    | nil =>
      have hx := hread x (by simp) g (']' :: rest)
      have htext : elemsText [x] ++ ']' :: rest = (write x).toList ++ ']' :: rest := by
        simp [elemsText, sepElems]
      have hlen : (elemsText [x]).length = (write x).toList.length := by simp [elemsText, sepElems]
      rw [htext, readElems, hx (by omega) (by simp [Follows])]
      simp [skipBlank]
    | cons y ys =>
      have hsep : sepElems (y :: ys) = ',' :: elemsText (y :: ys) := by simp [sepElems, elemsText]
      have htext : elemsText (x :: y :: ys) ++ ']' :: rest =
          (write x).toList ++ ',' :: (elemsText (y :: ys) ++ ']' :: rest) := by
        simp [elemsText, hsep]
      have hlen : (elemsText (x :: y :: ys)).length =
          (write x).toList.length + 1 + (elemsText (y :: ys)).length := by
        simp [elemsText, hsep]; omega
      have hxlen : 0 < (write x).toList.length := by
        obtain ⟨c, cs, hc, -⟩ := hstart x (by simp); simp [hc]
      have hx := hread x (by simp) g (',' :: (elemsText (y :: ys) ++ ']' :: rest))
      rw [htext, readElems, hx (by omega) (by simp [Follows])]
      obtain ⟨c, cs, hc, h1, h2, h3, h4, h5, -⟩ := hstart y (by simp)
      have hstep := ih (by simp) (fun z hz => hstart z (by simp [hz]))
        (fun z hz => hread z (by simp [hz])) g (x :: acc) (by omega)
      have hys : elemsText (y :: ys) = c :: (cs ++ sepElems ys) := by simp [elemsText, hc]
      rw [hys] at hstep
      simp [skipBlank, hys, h1, h2, h3, h4, h5]
      simpa using hstep

theorem skipBlank_quote (cs : List Char) : skipBlank ('"' :: cs) = '"' :: cs := by
  simp [skipBlank]

theorem skipBlank_colon (cs : List Char) : skipBlank (':' :: cs) = ':' :: cs := by
  simp [skipBlank]

theorem insertMember_of_lt {key : String} {v : Json} {acc : List (String × Json)}
    (h : ∀ p ∈ acc, p.1 < key) : insertMember key v acc = acc ++ [(key, v)] := by
  induction acc with
  | nil => rfl
  | cons p acc ih =>
    obtain ⟨k, w⟩ := p
    have hk : k < key := h (k, w) (by simp)
    simp [insertMember, String.lt_asymm hk, (String.ne_of_lt hk).symm,
      ih (fun q hq => h q (by simp [hq]))]

theorem length_le_escaped (cs : List Char) : cs.length ≤ (cs.flatMap escapeChars).length := by
  induction cs with
  | nil => simp
  | cons c cs ih =>
    have : 1 ≤ (escapeChars c).length := by unfold escapeChars; split_ifs <;> simp
    simp only [List.flatMap_cons, List.length_append, List.length_cons]
    omega

/-- A key written as a string literal and followed by its colon reads back as the key. -/
theorem stringBody_key (k : String) (rest : List Char) :
    stringBody ((k.toList.flatMap escapeChars ++ '"' :: rest).length + 1) ""
      (k.toList.flatMap escapeChars ++ '"' :: rest) = .ok (k, rest) := by
  have hle := length_le_escaped k.toList
  rw [stringBody_escaped k.toList _ "" rest (by simp only [List.length_append, List.length_cons]; omega)]
  simp [String.ofList_toList]

/-- The members of an object, each value read back by `hread`, read back as the object. A reader
that keeps members as written collects them in reverse and turns them round at the end; one that
sorts puts each member after the ones read before it, which needs the keys strictly increasing. -/
theorem readMembers_membersText {keep : Bool} {depth : Nat} (kvs : List (String × Json))
    (hne : kvs ≠ []) (hstart : ∀ p ∈ kvs, StartsValue (write p.2).toList)
    (hread : ∀ p ∈ kvs, ∀ (fuel : Nat) (rest : List Char), (write p.2).toList.length < fuel →
      Follows rest → readValue keep fuel depth ((write p.2).toList ++ rest) = .ok (p.2, rest))
    (fuel : Nat) (acc : List (String × Json)) (rest : List Char)
    (hsorted : keep = false → (acc ++ kvs).Pairwise fun a b => a.1 < b.1)
    (hf : (membersText kvs).length + 1 < fuel) :
    readMembers keep fuel depth (if keep then acc.reverse else acc) (membersText kvs ++ '}' :: rest) =
      .ok (.obj (acc ++ kvs), rest) := by
  induction kvs generalizing fuel acc with
  | nil => exact absurd rfl hne
  | cons p kvs ih =>
    obtain ⟨k, v⟩ := p
    obtain ⟨g, rfl⟩ : ∃ g, fuel = g + 1 := Nat.exists_eq_succ_of_ne_zero (by omega)
    have hacc : (if keep then (k, v) :: (if keep then acc.reverse else acc)
        else insertMember k v (if keep then acc.reverse else acc)) =
        if keep then (acc ++ [(k, v)]).reverse else acc ++ [(k, v)] := by
      cases keep with
      | true => simp
      | false =>
        simp only [Bool.false_eq_true, if_false]
        exact insertMember_of_lt fun q hq =>
          (List.pairwise_append.mp (hsorted rfl)).2.2 q hq (k, v) (by simp)
    have hv : ∀ (fuel : Nat) (rest : List Char), (write v).toList.length < fuel → Follows rest →
        readValue keep fuel depth ((write v).toList ++ rest) = .ok (v, rest) :=
      hread (k, v) (by simp)
    have hvlen : 0 < (write v).toList.length := by
      obtain ⟨c, cs, hc, -⟩ : StartsValue (write v).toList := hstart (k, v) (by simp)
      simp [hc]
    cases kvs with
    | nil =>
      have htext : membersText [(k, v)] ++ '}' :: rest =
          '"' :: (k.toList.flatMap escapeChars ++ '"' :: ':' :: ((write v).toList ++ '}' :: rest)) := by
        simp [membersText, memberText, sepMembers, writeStr_toList]
      have hlen : (membersText [(k, v)]).length =
          (k.toList.flatMap escapeChars).length + 3 + (write v).toList.length := by
        simp [membersText, memberText, sepMembers, writeStr_toList]; omega
      have hkey := stringBody_key k (':' :: ((write v).toList ++ '}' :: rest))
      rw [htext, readMembers]
      simp only [skipBlank_quote, ne_eq, not_true_eq_false, if_false]
      rw [hkey]
      simp only [skipBlank_colon]
      rw [hv g ('}' :: rest) (by omega) (by simp [Follows])]
      simp only [hacc]
      cases keep <;> simp [skipBlank]
    | cons q qs =>
      have hsep : sepMembers (q :: qs) = ',' :: membersText (q :: qs) := by
        simp [sepMembers, membersText]
      have htext : membersText ((k, v) :: q :: qs) ++ '}' :: rest =
          '"' :: (k.toList.flatMap escapeChars ++ '"' :: ':' ::
            ((write v).toList ++ ',' :: (membersText (q :: qs) ++ '}' :: rest))) := by
        simp [membersText, memberText, hsep, writeStr_toList]
      have hlen : (membersText ((k, v) :: q :: qs)).length =
          (k.toList.flatMap escapeChars).length + 3 + (write v).toList.length + 1 +
            (membersText (q :: qs)).length := by
        simp [membersText, memberText, hsep, writeStr_toList]; omega
      obtain ⟨q1, q2⟩ := q
      have hkey := stringBody_key k
        (':' :: ((write v).toList ++ ',' :: (membersText ((q1, q2) :: qs) ++ '}' :: rest)))
      have hq : membersText ((q1, q2) :: qs) =
          '"' :: (q1.toList.flatMap escapeChars ++ '"' :: ':' :: ((write q2).toList ++ sepMembers qs)) := by
        simp [membersText, memberText, writeStr_toList]
      have hstep := ih (by simp) (fun z hz => hstart z (by simp [hz]))
        (fun z hz => hread z (by simp [hz])) g (acc ++ [(k, v)])
        (fun hk => by simpa using hsorted hk) (by omega)
      rw [htext, readMembers]
      simp only [skipBlank_quote, ne_eq, not_true_eq_false, if_false]
      rw [hkey]
      simp only [skipBlank_colon]
      rw [hv g (',' :: (membersText ((q1, q2) :: qs) ++ '}' :: rest)) (by omega) (by simp [Follows])]
      simp only [hacc]
      rw [hq] at hstep ⊢
      simpa [skipBlank] using hstep

/-- A value a reader gives back is read back by it from its text followed by anything that may
follow a value, given more fuel than the text has characters. -/
theorem readValue_write_legible {keep : Bool} {depth : Nat} {v : Json} (hv : Legible keep depth v) :
    ∀ (fuel : Nat) (rest : List Char), (write v).toList.length < fuel → Follows rest →
      readValue keep fuel depth ((write v).toList ++ rest) = .ok (v, rest) := by
  induction hv with
  | null =>
    intro fuel rest hf _
    obtain ⟨f, rfl⟩ : ∃ f, fuel = f + 1 := Nat.exists_eq_succ_of_ne_zero (by omega)
    have hw : (write .null).toList = 'n' :: ['u', 'l', 'l'] := by simp [write, writeTo]
    rw [hw]
    simp [readValue, skipBlank, readWord, readWord.go]
  | bool _ b =>
    intro fuel rest hf _
    obtain ⟨f, rfl⟩ : ∃ f, fuel = f + 1 := Nat.exists_eq_succ_of_ne_zero (by omega)
    cases b
    · have hw : (write (.bool false)).toList = 'f' :: ['a', 'l', 's', 'e'] := by simp [write, writeTo]
      rw [hw]
      simp [readValue, skipBlank, readWord, readWord.go]
    · have hw : (write (.bool true)).toList = 't' :: ['r', 'u', 'e'] := by simp [write, writeTo]
      rw [hw]
      simp [readValue, skipBlank, readWord, readWord.go]
  | int _ i lo hi =>
    intro fuel rest hf hr
    obtain ⟨f, rfl⟩ : ∃ f, fuel = f + 1 := Nat.exists_eq_succ_of_ne_zero (by omega)
    rw [write_int_toList]
    cases i with
    | ofNat m =>
      have hm : m ≤ u64Max := by simp [Number.intBound] at hi; simp [u64Max]; omega
      obtain ⟨d, ds, hds⟩ : ∃ d ds, Nat.toDigits 10 m = d :: ds :=
        List.exists_cons_of_ne_nil Nat.toDigits_ne_nil
      have hd : d.isDigit = true :=
        @Nat.isDigit_of_mem_toDigits 10 m d (by decide) (by decide) (by simp [hds])
      have htext : (Int.ofNat m).repr.toList ++ rest = d :: (ds ++ rest) := by
        simp [Int.repr, Nat.repr, hds]
      rw [htext, readValue_digit _ hd, ← List.cons_append, ← hds,
        readNumber_toDigits false m hm rest (follows_not_digit hr), afterInteger_follows false m rest hr]
      rfl
    | negSucc m =>
      have hm : m + 1 ≤ 2 ^ 63 := by simp [Number.intMin] at lo; omega
      have htext : (Int.negSucc m).repr.toList ++ rest = '-' :: (Nat.toDigits 10 (m + 1) ++ rest) := by
        simp [Int.repr, String.toList_append]
      rw [htext, readValue_minus,
        readNumber_toDigits true (m + 1) (by simp [u64Max]; omega) rest (follows_not_digit hr),
        afterInteger_follows true (m + 1) rest hr, if_neg (by decide),
        if_pos ⟨Nat.succ_ne_zero m, hm⟩]
      rfl
  | str _ s =>
    intro fuel rest hf _
    obtain ⟨f, rfl⟩ : ∃ f, fuel = f + 1 := Nat.exists_eq_succ_of_ne_zero (by omega)
    rw [write_str_toList]
    simp only [List.cons_append, List.append_assoc]
    simp only [readValue, skipBlank_quote, stringBody_key]
    simp
  | arr d xs room elems ih =>
    intro fuel rest hf _
    obtain ⟨f, rfl⟩ : ∃ f, fuel = f + 1 := Nat.exists_eq_succ_of_ne_zero (by omega)
    have hroom : ¬ d ≤ 1 := by omega
    rw [write_arr_toList] at hf ⊢
    simp only [List.cons_append, List.append_assoc]
    cases xs with
    | nil => simp [readValue, skipBlank, hroom, elemsText]
    | cons x xs =>
      obtain ⟨c, cs, hc, h1, h2, h3, h4, h5, -⟩ :=
        (elems x (by simp)).startsValue
      have hx : elemsText (x :: xs) = c :: (cs ++ sepElems xs) := by simp [elemsText, hc]
      have helems := readElems_elemsText (x :: xs) (by simp)
        (fun y hy => (elems y hy).startsValue) ih f [] rest
        (by simp at hf; omega)
      rw [hx] at helems ⊢
      simp [readValue, skipBlank, hroom, h1, h2, h3, h4, h5]
      simpa using helems
  | obj d kvs room sorted members ih =>
    intro fuel rest hf _
    obtain ⟨f, rfl⟩ : ∃ f, fuel = f + 1 := Nat.exists_eq_succ_of_ne_zero (by omega)
    have hroom : ¬ d ≤ 1 := by omega
    rw [write_obj_toList] at hf ⊢
    simp only [List.cons_append, List.append_assoc]
    cases kvs with
    | nil => simp [readValue, skipBlank, hroom, membersText]
    | cons p kvs =>
      have hmembers := readMembers_membersText (p :: kvs) (by simp)
        (fun q hq => (members q hq).startsValue) ih f [] rest
        (by simpa using sorted) (by simp at hf; omega)
      have hp : membersText (p :: kvs) = '"' :: ((writeStr "" p.1).toList.tail ++
          ':' :: (write p.2).toList ++ sepMembers kvs) := by
        simp [membersText, memberText, writeStr_toList]
      rw [hp] at hmembers ⊢
      simp [readValue, skipBlank, hroom]
      simpa using hmembers

theorem readValue_write {depth : Nat} {v : Json} (hv : Readable depth v) :
    ∀ (fuel : Nat) (rest : List Char), (write v).toList.length < fuel → Follows rest →
      readValue false fuel depth ((write v).toList ++ rest) = .ok (v, rest) :=
  readValue_write_legible (hv.legible false)

/-- The compact text of a value that a reader allowing the default nesting can give reads back as
the value. -/
theorem read_write {v : Json} (hv : Readable 128 v) : Json.read (write v) = .ok v := by
  have h := readValue_write hv ((write v).toList.length + 1) [] (by omega) trivial
  simp only [List.append_nil] at h
  simp [Json.read, Json.readWith, h, skipBlank]

/-- The compact text of a value that the reader keeping members as written can give, within the
default nesting, reads back as the value, its members in their written order. -/
theorem readMembersAsWritten_write {v : Json} (hv : Legible true 128 v) :
    Json.readMembersAsWritten (write v) = .ok v := by
  have h := readValue_write_legible hv ((write v).toList.length + 1) [] (by omega) trivial
  simp only [List.append_nil] at h
  simp [Json.readMembersAsWritten, Json.readWith, h, skipBlank]

end MapReduce.JsonRead
