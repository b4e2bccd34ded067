import MapReduce.Domain.Entity
import MapReduce.Kv.Identity
import Mathlib

/-! # The bytes of a workflow's handlers state

The handlers state of a workflow digests its handlers' (name, version) pairs: sorted by name, then
version, each framed as the name's UTF-8 bytes, a zero byte, the version's bytes and a line feed
(`handlersStateBytes`).

Sorting makes the bytes the same for every order of the pairs (`handlersStateBytes_perm`). The
framing reads back when no name holds a NUL character and no version a line feed; a version is the
hexadecimal digest of a source, whose characters are hexadecimal digits (`mem_sourceVersion`), so
for such pairs the bytes are equal exactly when the pairs are the same up to order
(`handlersStateBytes_eq_iff_perm`). An identity segment may hold a NUL, though, and a name that
spells out a whole frame of another handler gives two different sets of handlers the same bytes
(`spelled_frame_shares_bytes`). -/

namespace MapReduce

namespace HandlersState

/-! ## Sorting the pairs -/

/-- The order the pairs are sorted in: by name, then by version. -/
def pairLe (a b : String × String) : Bool := a.1 < b.1 || (a.1 == b.1 && a.2 ≤ b.2)

theorem pairLe_iff {a b : String × String} : pairLe a b = true ↔ toLex a ≤ toLex b := by
  simp [pairLe, Prod.Lex.toLex_le_toLex]

theorem pairLe_trans (a b c : String × String) : pairLe a b → pairLe b c → pairLe a c := by
  simp only [pairLe_iff]
  exact le_trans

theorem pairLe_total (a b : String × String) : (pairLe a b || pairLe b a) = true := by
  simp only [Bool.or_eq_true, pairLe_iff]
  exact le_total _ _

theorem pairLe_antisymm {a b : String × String} (hab : pairLe a b) (hba : pairLe b a) : a = b := by
  rw [pairLe_iff] at hab hba
  exact toLex.injective (le_antisymm hab hba)

/-- Sorting gives one list for all orders of the same pairs. -/
theorem mergeSort_eq_of_perm {l l' : List (String × String)} (h : l.Perm l') :
    l.mergeSort pairLe = l'.mergeSort pairLe :=
  List.Perm.eq_of_pairwise (fun _ _ _ _ hab hba => pairLe_antisymm hab hba)
    (List.pairwise_mergeSort pairLe_trans pairLe_total l)
    (List.pairwise_mergeSort pairLe_trans pairLe_total l')
    ((List.mergeSort_perm l _).trans (h.trans (List.mergeSort_perm l' _).symm))

/-! ## Framing -/

/-- The UTF-8 bytes of a text. -/
def bytes (s : String) : List UInt8 := s.toUTF8.data.toList

/-- The frame of one pair: the name's bytes, a zero byte, the version's bytes and a line feed. -/
def frame (p : String × String) : List UInt8 := bytes p.1 ++ 0 :: (bytes p.2 ++ [10])

/-- A fold that appends one frame per pair appends the frames of all the pairs. -/
theorem toList_foldl_frames {f : Array UInt8 → String × String → Array UInt8}
    (hf : ∀ acc p, (f acc p).toList = acc.toList ++ frame p) (l : List (String × String))
    (acc : Array UInt8) : (l.foldl f acc).toList = acc.toList ++ l.flatMap frame := by
  induction l generalizing acc with
  | nil => simp
  | cons p rest ih => rw [List.foldl_cons, ih, hf, List.flatMap_cons, List.append_assoc]

/-- The bytes of the handlers state are the frames of the sorted pairs. -/
theorem toList_handlersStateBytes (pairs : List (String × String)) :
    (handlersStateBytes pairs).toList = (pairs.mergeSort pairLe).flatMap frame := by
  refine (toList_foldl_frames (fun acc p => ?_) _ #[]).trans (List.nil_append _)
  obtain ⟨n, v⟩ := p
  simp [frame, bytes]

/-- The handlers state is the same for every order of the pairs. -/
theorem handlersStateBytes_perm {l l' : List (String × String)} (h : l.Perm l') :
    handlersStateBytes l = handlersStateBytes l' :=
  Array.toList_inj.mp (by rw [toList_handlersStateBytes, toList_handlersStateBytes, mergeSort_eq_of_perm h])

/-- The handlers state digests the same bytes for every order of the pairs. -/
theorem handlersState_perm {l l' : List (String × String)} (h : l.Perm l') :
    handlersState l = handlersState l' :=
  congrArg Sha256.hexDigest (handlersStateBytes_perm h)

theorem bytes_eq (s : String) : bytes s = s.toList.flatMap String.utf8EncodeChar := by
  rw [bytes, String.toUTF8_eq_toByteArray, ← String.utf8Encode_toList, List.utf8Encode,
    List.data_toByteArray, List.toList_toArray]

theorem bytes_append (s t : String) : bytes (s ++ t) = bytes s ++ bytes t := by
  simp [bytes_eq, String.toList_append]

theorem bytes_injective {s t : String} (h : bytes s = bytes t) : s = t := by
  rw [bytes_eq, bytes_eq, ← List.toByteArray_inj, ← List.utf8Encode, ← List.utf8Encode,
    String.utf8Encode_toList, String.utf8Encode_toList] at h
  exact String.toByteArray_inj.mp h

/-- A byte below 128 stands in the encoding of a character only as that character itself. -/
theorem toNat_of_mem_utf8EncodeChar {c : Char} {b : UInt8} (hb : b.toNat < 128)
    (h : b ∈ String.utf8EncodeChar c) : c.toNat = b.toNat := by
  unfold String.utf8EncodeChar at h
  simp only at h
  split_ifs at h with h1 h2 h3
  · simp only [List.mem_singleton] at h
    subst h
    simp only [UInt8.toNat_ofNat', Nat.reducePow]
    have : c.val.toNat < 256 := by omega
    rw [Nat.mod_eq_of_lt this]
    rfl
  all_goals
    simp only [List.mem_cons, List.mem_nil_iff, or_false] at h
    rcases h with rfl | rfl | rfl | rfl <;> simp only [UInt8.toNat_ofNat', Nat.reducePow] at hb <;> omega

/-- A character below 128 that a text does not hold is a byte its encoding does not hold. -/
theorem not_mem_bytes {s : String} {c : Char} (hc : c.toNat < 128) (h : c ∉ s.toList) :
    UInt8.ofNat c.toNat ∉ bytes s := by
  rw [bytes_eq, List.mem_flatMap]
  rintro ⟨d, hd, hmem⟩
  have hb : (UInt8.ofNat c.toNat).toNat = c.toNat := by
    simp only [UInt8.toNat_ofNat', Nat.reducePow]
    omega
  have := toNat_of_mem_utf8EncodeChar (by omega) hmem
  rw [hb] at this
  exact h (Char.toNat_inj.mp this ▸ hd)

/-- A list in which `a` comes first after a part without `a` gives that part back. -/
theorem append_cons_cancel {α : Type} {a : α} :
    ∀ {x₁ x₂ z₁ z₂ : List α}, a ∉ x₁ → a ∉ x₂ → x₁ ++ a :: z₁ = x₂ ++ a :: z₂ → x₁ = x₂ ∧ z₁ = z₂
  | [], [], _, _, _, _, h => ⟨rfl, (List.cons.inj h).2⟩
  | [], b :: _, _, _, _, h₂, h => absurd ((List.cons.inj h).1 ▸ List.mem_cons_self) h₂
  | b :: _, [], _, _, h₁, _, h => absurd ((List.cons.inj h).1 ▸ List.mem_cons_self) h₁
  | b :: x₁, c :: x₂, _, _, h₁, h₂, h => by
    obtain ⟨rfl, h'⟩ := List.cons.inj h
    obtain ⟨rfl, rfl⟩ := append_cons_cancel (List.not_mem_of_not_mem_cons h₁)
      (List.not_mem_of_not_mem_cons h₂) h'
    exact ⟨rfl, rfl⟩

/-- A pair whose frame reads back: no NUL in its name and no line feed in its version. -/
def Framed (p : String × String) : Prop := '\x00' ∉ p.1.toList ∧ '\n' ∉ p.2.toList

/-- Frames of pairs that read back determine the pairs. -/
theorem flatMap_frame_injective {s s' : List (String × String)} (hs : ∀ p ∈ s, Framed p)
    (hs' : ∀ p ∈ s', Framed p) (h : s.flatMap frame = s'.flatMap frame) : s = s' := by
  induction s generalizing s' with
  | nil =>
    cases s' with
    | nil => rfl
    | cons p rest => simp [frame] at h
  | cons p rest ih =>
    cases s' with
    | nil => simp [frame] at h
    | cons p' rest' =>
      obtain ⟨hname, hversion⟩ := hs p List.mem_cons_self
      obtain ⟨hname', hversion'⟩ := hs' p' List.mem_cons_self
      simp only [List.flatMap_cons, frame, List.append_assoc, List.cons_append] at h
      obtain ⟨h₁, h⟩ := append_cons_cancel (not_mem_bytes (by decide) hname)
        (not_mem_bytes (by decide) hname') h
      obtain ⟨h₂, h⟩ := append_cons_cancel (not_mem_bytes (by decide) hversion)
        (not_mem_bytes (by decide) hversion') h
      have hp : p = p' := Prod.ext (bytes_injective h₁) (bytes_injective h₂)
      rw [hp, ih (fun q hq => hs q (List.mem_cons_of_mem p hq))
        (fun q hq => hs' q (List.mem_cons_of_mem p' hq)) h]

/-! ## Versions -/

/-- A character of a version is a hexadecimal digit. -/
theorem mem_sourceVersion {src : String} {c : Char} (h : c ∈ (sourceVersion src).toList) :
    ∃ n < 16, c = Sha256.hexChar n := by
  simp only [sourceVersion, Sha256.hexDigestOfString, Sha256.hexDigest, String.toList_ofList,
    List.mem_flatMap, Sha256.wordHex, List.mem_map] at h
  obtain ⟨_, _, i, _, rfl⟩ := h
  exact ⟨_, Nat.mod_lt _ (by decide), rfl⟩

theorem hexChar_ne {n : Nat} (hn : n < 16) :
    Sha256.hexChar n ≠ '\x00' ∧ Sha256.hexChar n ≠ '\n' ∧ Sha256.hexChar n ≠ '/' ∧
      Sha256.hexChar n ≠ '-' := by
  interval_cases n <;> decide

theorem framed_of_sourceVersion {name src : String} (h : '\x00' ∉ name.toList) :
    Framed (name, sourceVersion src) := by
  refine ⟨h, fun hmem => ?_⟩
  obtain ⟨n, hn, hc⟩ := mem_sourceVersion hmem
  exact (hexChar_ne hn).2.1 hc.symm

/-- For names without NUL and versions of sources, the bytes of the handlers state are equal
exactly when the pairs are the same up to order. -/
theorem handlersStateBytes_eq_iff_perm {l l' : List (String × String)}
    (hl : ∀ p ∈ l, '\x00' ∉ p.1.toList ∧ ∃ src, p.2 = sourceVersion src)
    (hl' : ∀ p ∈ l', '\x00' ∉ p.1.toList ∧ ∃ src, p.2 = sourceVersion src) :
    handlersStateBytes l = handlersStateBytes l' ↔ l.Perm l' := by
  have hframed : ∀ {k : List (String × String)},
      (∀ p ∈ k, '\x00' ∉ p.1.toList ∧ ∃ src, p.2 = sourceVersion src) →
        ∀ p ∈ k.mergeSort pairLe, Framed p := by
    intro k hk p hp
    obtain ⟨hname, src, hsrc⟩ := hk p ((List.mergeSort_perm k _).subset hp)
    obtain ⟨name, version⟩ := p
    simp only at hsrc
    subst hsrc
    exact framed_of_sourceVersion hname
  constructor
  · intro h
    have hsorted := flatMap_frame_injective (hframed hl) (hframed hl')
      (by rw [← toList_handlersStateBytes, ← toList_handlersStateBytes, h])
    exact (List.mergeSort_perm l _).symm.trans (hsorted ▸ List.mergeSort_perm l' _)
  · exact handlersStateBytes_perm

/-! ## Names holding a NUL -/

/-- A character other than NUL, line feed and the hexadecimal digits stands in a name spelling out
two frames only where it stands in one of the two names. -/
theorem not_mem_spelled_frame {a b x : String} {c : Char} (hc₀ : c ≠ '\x00') (hc₁ : c ≠ '\n')
    (hdigit : ∀ n < 16, Sha256.hexChar n ≠ c) (ha : c ∉ a.toList) (hb : c ∉ b.toList) :
    c ∉ (a ++ "\x00" ++ sourceVersion x ++ "\n" ++ b).toList := by
  simp only [String.toList_append, List.mem_append, show "\x00".toList = ['\x00'] from rfl,
    show "\n".toList = ['\n'] from rfl, List.mem_singleton]
  rintro ((((h | h) | h) | h) | h)
  · exact ha h
  · exact hc₀ h
  · obtain ⟨n, hn, hc⟩ := mem_sourceVersion h
    exact hdigit n hn hc.symm
  · exact hc₁ h
  · exact hb h

/-- A name may spell out the frame of another handler. For valid names `a < b` and any sources
`x` and `y`, the name `a`, a NUL, the version of `x`, a line feed and `b` is a valid identity
segment, and its handler of source `y` alone gives the same bytes as the two handlers `a` of source
`x` and `b` of source `y`. -/
theorem spelled_frame_shares_bytes {a b : String} (x y : String) (hab : a < b)
    (ha : Identity.ValidSegment a) (hb : Identity.ValidSegment b) :
    Identity.ValidSegment (a ++ "\x00" ++ sourceVersion x ++ "\n" ++ b) ∧
      handlersStateBytes [(a, sourceVersion x), (b, sourceVersion y)] =
        handlersStateBytes [(a ++ "\x00" ++ sourceVersion x ++ "\n" ++ b, sourceVersion y)] ∧
      ¬ [(a, sourceVersion x), (b, sourceVersion y)].Perm
        [(a ++ "\x00" ++ sourceVersion x ++ "\n" ++ b, sourceVersion y)] := by
  obtain ⟨-, ha₁, ha₂⟩ := ha
  obtain ⟨-, hb₁, hb₂⟩ := hb
  refine ⟨⟨?_, not_mem_spelled_frame (by decide) (by decide) (fun n hn => (hexChar_ne hn).2.2.1)
    ha₁ hb₁, not_mem_spelled_frame (by decide) (by decide) (fun n hn => (hexChar_ne hn).2.2.2)
    ha₂ hb₂⟩, ?_, ?_⟩
  · intro h
    have hchars := congrArg String.toList h
    simp only [String.toList_append, show "\x00".toList = ['\x00'] from rfl] at hchars
    simp at hchars
  · -- the two handlers are already sorted, by their names
    have hsorted : [(a, sourceVersion x), (b, sourceVersion y)].Pairwise
        (fun p q => pairLe p q = true) :=
      List.pairwise_pair.mpr (pairLe_iff.mpr (Prod.Lex.toLex_le_toLex.mpr (.inl hab)))
    have hnul : bytes "\x00" = [0] := rfl
    have hlf : bytes "\n" = [10] := rfl
    apply Array.toList_inj.mp
    rw [toList_handlersStateBytes, toList_handlersStateBytes, List.mergeSort_of_pairwise hsorted]
    simp only [List.mergeSort_singleton, List.flatMap_cons, List.flatMap_nil, List.append_nil, frame,
      bytes_append, hnul, hlf, List.append_assoc, List.cons_append, List.nil_append]
  · exact fun h => absurd h.length_eq (by simp)

end HandlersState

end MapReduce
