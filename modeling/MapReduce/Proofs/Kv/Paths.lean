import MapReduce.Proofs.Engine.Traversal
import Mathlib

/-! # Paths of identities

A path joins the segments of an identity with `/`, and a valid segment is neither empty nor holds
a `/` or a `-`. Splitting a path at its `/`s therefore gives the segments back
(`Identity.splitOn_toList_of_encode`), and that makes encoding an injective, prefix-respecting
embedding of the identities with segments into paths: reading a path accepts exactly the paths
that encoding writes and gives their identity back, and the two tests the in-memory store runs on
paths, `MemoryStore.underRoot` for a subtree (deleting a tree, dumping it) and
`MemoryStore.childName?` for a child (listing children), are the prefix and the one-more-segment
relations of the segments. -/

namespace MapReduce

namespace Identity

/-! ## Splitting text at `/` -/

/-- Stepping back over a `/` just read lands where it was read. -/
theorem unoffsetBy_next_slash {s : String} {i : String.Pos.Raw} (h : String.Pos.Raw.get s i = '/') :
    (String.Pos.Raw.next s i).unoffsetBy (String.Pos.Raw.next "/" 0) = i := by
  ext
  simp [String.Pos.Raw.next, h, String.Pos.Raw.byteIdx_add_char]
  rfl

/-- Splitting at the one-character separator `/` is splitting at the characters equal to `/`: a
match of the separator is always complete, so the search never steps back. -/
theorem splitOnAux_slash (s : String) (b i : String.Pos.Raw) (r : List String) :
    String.splitOnAux s "/" b i 0 r = String.splitAux s (· == '/') b i r := by
  have hsep : String.Pos.Raw.get "/" 0 = '/' := rfl
  fun_induction String.splitAux s (· == '/') b i r with
  | case1 b i r hend =>
    unfold String.splitOnAux
    simp only [hend, if_true]
    rfl
  | case2 b i r hend _ hslash i' ih =>
    unfold String.splitOnAux
    have hone : String.Pos.Raw.atEnd "/" (String.Pos.Raw.next "/" 0) = true := rfl
    have hget : String.Pos.Raw.get s i = '/' := by simpa using hslash
    simp only [hend, hsep, hslash, hone, if_true, Bool.false_eq_true, if_false,
      unoffsetBy_next_slash hget]
    exact ih
  | case3 b i r hend _ hslash ih =>
    unfold String.splitOnAux
    simp only [hend, hsep, hslash, Bool.false_eq_true, if_false, String.Pos.Raw.unoffsetBy_zero]
    exact ih

/-- The pieces of a text split at `/` are the pieces of its characters split at `/`. -/
theorem splitOn_slash (s : String) : s.splitOn "/" = (s.toList.splitOn '/').map String.ofList := by
  rw [String.splitOn, if_neg (by decide), splitOnAux_slash, List.splitOn_eq_splitOnP]
  exact String.splitToList_of_valid s _

/-- Joining the pieces of a text split at `/` gives the text back. -/
theorem display_splitOn (p : String) : display ⟨(p.toList.splitOn '/').map String.ofList⟩ = p := by
  apply String.toList_injective
  simp [display, String.toList_intercalate, List.map_map, Function.comp_def]

/-! ## Valid segments -/

/-- The check of a segment passes exactly on valid segments. -/
theorem validateSegment_eq_ok_iff {s : String} : validateSegment s = .ok () ↔ ValidSegment s := by
  unfold validateSegment ValidSegment
  by_cases he : s.isEmpty
  · simp [String.isEmpty_iff.mp he]
  · have hne : s ≠ "" := fun h => by simp [h] at he
    by_cases hr : s.toList.any (fun c => c = '/' || c = '-')
    · obtain ⟨c, hc, hc'⟩ := List.any_eq_true.mp hr
      simp only [he, hr, Bool.false_eq_true, if_false, if_true, reduceCtorEq, false_iff]
      rintro ⟨-, hs, hd⟩
      simp only [Bool.or_eq_true, decide_eq_true_eq] at hc'
      rcases hc' with rfl | rfl
      · exact hs hc
      · exact hd hc
    · have hall := List.any_eq_false.mp (Bool.not_eq_true _ ▸ hr)
      simp only [he, hr, Bool.false_eq_true, if_false, true_iff]
      exact ⟨hne, fun h => hall '/' h (by simp), fun h => hall '-' h (by simp)⟩

/-- The check of a segment fails only with a reserved character. -/
theorem validateSegment_error {s : String} {e : KvError} (h : validateSegment s = .error e) :
    ∃ m, e = .reservedCharacter m := by
  unfold validateSegment at h
  split at h
  · cases h; exact ⟨_, rfl⟩
  · split at h
    · cases h; exact ⟨_, rfl⟩
    · cases h

/-- Encoding fails only on a segment's check. -/
theorem encode_error {id : Identity} {e : KvError} (h : id.encode = .error e) :
    ∃ s ∈ id.segments, validateSegment s = .error e := by
  obtain ⟨segs⟩ := id
  unfold encode at h
  split at h
  · rename_i e' hm
    cases h
    induction segs with
    | nil => cases hm
    | cons s rest ih =>
      rw [List.mapM_cons] at hm
      rcases hs : validateSegment s with e'' | ⟨⟩
      · rw [hs] at hm
        cases hm
        exact ⟨s, List.mem_cons_self, hs⟩
      · rcases hr : rest.mapM validateSegment with e'' | us
        · rw [hs, hr] at hm
          cases hm
          obtain ⟨t, ht, hte⟩ := ih hr
          exact ⟨t, List.mem_cons_of_mem s ht, hte⟩
        · rw [hs, hr] at hm
          cases hm
  · cases h

/-- An identity has a path exactly when its segments are valid, and the path is then its
segments joined by `/`. -/
theorem encode_eq_ok_iff {id : Identity} {p : String} :
    id.encode = .ok p ↔ (∀ s ∈ id.segments, ValidSegment s) ∧ p = id.display := by
  obtain ⟨segs⟩ := id
  constructor
  · intro h
    exact ⟨fun s hs => validateSegment_eq_ok_iff.mp (validateSegment_of_encode h hs),
      eq_display_of_encode h⟩
  · rintro ⟨hv, rfl⟩
    exact encode_of_valid fun s hs => validateSegment_eq_ok_iff.mpr (hv s hs)

/-- Encoding fails, and with a reserved character, exactly when a segment is not valid. -/
theorem encode_error_iff {id : Identity} :
    (∃ m, id.encode = .error (.reservedCharacter m)) ↔ ∃ s ∈ id.segments, ¬ ValidSegment s := by
  constructor
  · rintro ⟨m, hm⟩
    obtain ⟨s, hs, hse⟩ := encode_error hm
    exact ⟨s, hs, fun hv => by simp [validateSegment_eq_ok_iff.mpr hv] at hse⟩
  · rintro ⟨s, hs, hinv⟩
    rcases h : id.encode with e | p
    · obtain ⟨t, -, hte⟩ := encode_error h
      obtain ⟨m, rfl⟩ := validateSegment_error hte
      exact ⟨m, rfl⟩
    · exact absurd ((encode_eq_ok_iff.mp h).1 s hs) hinv

/-- The path of an identity with segments is not empty. -/
theorem encode_ne_empty {id : Identity} {p : String} (h : id.encode = .ok p) (hne : id.segments ≠ []) :
    p ≠ "" := by
  intro hp
  have hsplit := splitOn_toList_of_encode h hne
  obtain ⟨s, rest, hsegs⟩ := List.exists_cons_of_ne_nil hne
  rw [hp, hsegs] at hsplit
  have hs : s = "" ∧ rest = [] := by simpa using hsplit
  exact ((encode_eq_ok_iff.mp h).1 s (by simp [hsegs])).1 hs.1

/-! ## Reading a path -/

/-- The segments of an identity with a path are the pieces of the path. -/
theorem segments_eq_pieces {id : Identity} {p : String} (h : id.encode = .ok p)
    (hne : id.segments ≠ []) : id.segments = (p.toList.splitOn '/').map String.ofList := by
  obtain ⟨segs⟩ := id
  rw [splitOn_toList_of_encode h hne, List.map_map]
  simp [Function.comp_def]

/-- A path is read exactly when it is the path of an identity with segments, and it is read as
that identity. -/
theorem decode_eq_ok_iff {p : String} {id : Identity} :
    decode p = .ok id ↔ id.segments ≠ [] ∧ id.encode = .ok p := by
  unfold decode
  dsimp only
  rw [splitOn_slash]
  split
  · rename_i e henc
    simp only [reduceCtorEq, false_iff, not_and]
    intro hne h
    rw [← segments_eq_pieces h hne] at henc
    rw [henc] at h
    cases h
  · rename_i q henc
    constructor
    · intro h
      cases h
      refine ⟨by simp [List.splitOn_ne_nil], ?_⟩
      rw [henc, eq_display_of_encode henc, display_splitOn]
    · rintro ⟨hne, h⟩
      have hid : id = ⟨(p.toList.splitOn '/').map String.ofList⟩ := by
        obtain ⟨segs⟩ := id
        simpa using segments_eq_pieces h hne
      rw [hid]

example : decode "queues/dataset/wf/inv/post_reduce" =
    .ok ⟨["queues", "dataset", "wf", "inv", "post_reduce"]⟩ :=
  decode_eq_ok_iff.mpr ⟨by simp, by decide⟩

/-! ## Subtrees and children -/

/-- The path of an identity whose segments go on after those of another is the other's path,
a `/` and the path of the rest. -/
theorem encode_append {a t : List String} {pa p : String} (ha : (Identity.mk a).encode = .ok pa)
    (h : (Identity.mk (a ++ t)).encode = .ok p) (hna : a ≠ []) (hnt : t ≠ []) :
    p = pa ++ "/" ++ display ⟨t⟩ := by
  rw [eq_display_of_encode h, eq_display_of_encode ha]
  simp only [display]
  rw [String.intercalate_append_of_ne_nil hna hnt]

/-- Splitting at `/` a text that starts with the path of an identity with segments and a `/`
gives the segments, then the pieces of the rest. -/
theorem splitOn_below_encode {a : List String} {pa : String} (ha : (Identity.mk a).encode = .ok pa)
    (hne : a ≠ []) (rest : List Char) :
    ((pa ++ "/").toList ++ rest).splitOn '/' = a.map String.toList ++ rest.splitOn '/' := by
  rw [String.toList_append, List.append_assoc, show "/".toList = ['/'] from rfl,
    List.singleton_append, List.splitOn_append_cons_self, splitOn_toList_of_encode ha hne]

/-- An identity with segments is at or below another exactly when the other's segments start its
own: the test the store uses to delete or dump a subtree. -/
theorem underRoot_iff_prefix {a b : Identity} {pa pb : String} (ha : a.encode = .ok pa)
    (hb : b.encode = .ok pb) (hne : a.segments ≠ []) :
    MemoryStore.underRoot pa pb = true ↔ a.segments <+: b.segments := by
  obtain ⟨a⟩ := a
  obtain ⟨b⟩ := b
  simp only at hne ⊢
  by_cases hnb : b = []
  · -- the empty identity's path is empty, below no path of an identity with segments
    subst hnb
    have hpb : pb = "" := by simp [eq_display_of_encode hb, display]
    have hpa := encode_ne_empty ha hne
    simp [MemoryStore.underRoot, hpb, Ne.symm hpa, List.prefix_nil, hne]
  constructor
  · intro h
    simp only [MemoryStore.underRoot, Bool.or_eq_true, beq_iff_eq, String.startsWith_string_iff] at h
    rcases h with rfl | ⟨rest, hrest⟩
    · exact (segments_eq_of_encode ha hb hne hnb) ▸ List.prefix_refl a
    · have hsplit := splitOn_toList_of_encode hb hnb
      rw [← hrest, splitOn_below_encode ha hne] at hsplit
      have hpre : a.map String.toList <+: b.map String.toList := hsplit ▸ List.prefix_append _ _
      exact (List.prefix_map_iff_of_injective fun _ _ h => String.toList_injective h).mp hpre
  · rintro ⟨t, rfl⟩
    simp only [MemoryStore.underRoot, Bool.or_eq_true, beq_iff_eq, String.startsWith_string_iff]
    by_cases ht : t = []
    · subst ht
      left
      simpa [eq_display_of_encode ha] using eq_display_of_encode hb
    · right
      rw [encode_append ha hb hne ht]
      exact ⟨(display ⟨t⟩).toList, by simp [String.toList_append]⟩

/-- The path of a valid identity is that of another with segments, a `/` and a name without `/`
exactly when the identity is the other's child of that name. -/
theorem eq_child_iff {a b : Identity} {pa pb n : String} (ha : a.encode = .ok pa)
    (hb : b.encode = .ok pb) (hne : a.segments ≠ []) :
    (pb = pa ++ "/" ++ n ∧ '/' ∉ n.toList) ↔ b = a.child n := by
  obtain ⟨a⟩ := a
  obtain ⟨b⟩ := b
  simp only at hne
  constructor
  · rintro ⟨rfl, hn⟩
    have hnb : b ≠ [] := by
      rintro rfl
      have : display ⟨[]⟩ = pa ++ "/" ++ n := (eq_display_of_encode hb).symm
      simp [display] at this
    have hsplit := splitOn_toList_of_encode hb hnb
    rw [show (pa ++ "/" ++ n).toList = (pa ++ "/").toList ++ n.toList from String.toList_append,
      splitOn_below_encode ha hne,
      List.splitOn_eq_singleton hn] at hsplit
    have hb' : b = a ++ [n] :=
      List.map_injective_iff.mpr (fun _ _ h => String.toList_injective h) (by simpa using hsplit.symm)
    simp [child, hb']
  · intro h
    simp only [child, Identity.mk.injEq] at h
    subst h
    have hn : validateSegment n = .ok () := validateSegment_of_encode hb (by simp)
    refine ⟨encode_append ha hb hne (List.cons_ne_nil _ _) |>.trans ?_,
      (validateSegment_eq_ok_iff.mp hn).2.1⟩
    simp [display, String.intercalate_singleton]

/-- A name comes after the path of an identity with segments and a `/` in the path of a valid
identity exactly when that identity is the first's child of the name: the test the store uses to
list children. -/
theorem childName?_iff {a b : Identity} {pa pb n : String} (ha : a.encode = .ok pa)
    (hb : b.encode = .ok pb) (hne : a.segments ≠ []) :
    MemoryStore.childName? (pa ++ "/") pb = some n ↔ b = a.child n := by
  rw [← eq_child_iff ha hb hne]
  constructor
  · intro h
    obtain ⟨hp, hn⟩ := MemoryStore.toList_of_childName? h
    exact ⟨String.toList_injective (by simpa [String.toList_append] using hp), hn⟩
  · rintro ⟨rfl, hn⟩
    have hpre : (pa ++ "/").toList <+: (pa ++ "/" ++ n).toList := ⟨n.toList, by simp⟩
    unfold MemoryStore.childName?
    rw [if_pos (String.startsWith_string_iff.mpr hpre)]
    have hname : String.ofList ((pa ++ "/" ++ n).toList.drop (pa ++ "/").length) = n := by
      simp [String.toList_append, ← String.length_toList]
    simp only [hname]
    rw [if_neg (by simpa using hn)]

/-- Encoding is an injective, prefix-respecting embedding of the identities with segments into
paths. It fails, with a reserved character, exactly when a segment is empty or holds a `/` or a
`-`; reading a path accepts exactly the paths of identities with segments and gives the identity
back; one path is another's or below it exactly when the segments extend, and it is the other's
followed by one name exactly for the other's child of that name. The last two are the tests by
which the store deletes or dumps a subtree and lists children. -/
theorem paths_embed_identities (a b : Identity) (p pa pb n : String) :
    ((∃ m, a.encode = .error (.reservedCharacter m)) ↔ ∃ s ∈ a.segments, ¬ ValidSegment s) ∧
    (a.segments ≠ [] → a.encode = .ok p → decode p = .ok a) ∧
    ((∃ id, decode p = .ok id) ↔ ∃ id : Identity, id.segments ≠ [] ∧ id.encode = .ok p) ∧
    (∀ id, decode p = .ok id → id.encode = .ok p) ∧
    (a.segments ≠ [] → a.encode = .ok pa → b.encode = .ok pb →
      ((pb = pa ∨ pb.startsWith (pa ++ "/")) ↔ a.segments <+: b.segments) ∧
      ((pb = pa ++ "/" ++ n ∧ '/' ∉ n.toList) ↔ b = a.child n) ∧
      (MemoryStore.underRoot pa pb = true ↔ a.segments <+: b.segments) ∧
      (MemoryStore.childName? (pa ++ "/") pb = some n ↔ b = a.child n)) := by
  refine ⟨encode_error_iff, fun hne h => decode_eq_ok_iff.mpr ⟨hne, h⟩, ?_,
    fun id h => (decode_eq_ok_iff.mp h).2, fun hne ha hb => ?_⟩
  · constructor
    · rintro ⟨id, h⟩
      exact ⟨id, decode_eq_ok_iff.mp h⟩
    · rintro ⟨id, h⟩
      exact ⟨id, decode_eq_ok_iff.mpr h⟩
  · have hsub := underRoot_iff_prefix ha hb hne
    refine ⟨?_, eq_child_iff ha hb hne, hsub, childName?_iff ha hb hne⟩
    rw [← hsub]
    simp [MemoryStore.underRoot]

end Identity

end MapReduce
